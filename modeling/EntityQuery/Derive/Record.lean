/-
  EntityQuery.Derive.Record — values of a derived entity, and how rows fill them.

  A record holds the contents of all members of a definition, skipped ones included. What a
  member type can hold and how it is taken out of a value is a `MemberType`; a derived
  entity comes with one for every type expression. The field at an index is stored in the
  member behind its slot, checking a value is converting it and throwing the content away,
  and a fresh record has the initial content everywhere.
-/
import EntityQuery.Derive.Expansion
import EntityQuery.Entity

namespace EntityQuery.Derive

open Schema Number

inductive Content where
  | integer (n : Int)
  | boolean (b : Bool)
  | single (x : Single)
  | double (x : Double)
  | text (s : String)
  | bytes (bs : List UInt8)
  | json (j : Json)
  /-- A value of an enumerated type, by name. -/
  | choice (name : String)
  /-- Nothing, where something optional could be. -/
  | absent
  | present (c : Content)
  deriving DecidableEq, Inhabited

/-- How a member of some type is read, and what it holds at first. -/
structure MemberType where
  read : Value → Except ExtractError Content
  initial : Content

namespace MemberType

def integer (type : IntegerType) : MemberType where
  read v := (v.toInteger type).map .integer
  initial := .integer 0

def boolean : MemberType := ⟨fun v => v.toBoolean.map .boolean, .boolean false⟩

def single : MemberType := ⟨fun v => v.toSingle.map .single, .single ⟨0⟩⟩

def double : MemberType := ⟨fun v => v.toDouble.map .double, .double ⟨0⟩⟩

def text : MemberType := ⟨fun v => v.toText.map .text, .text ""⟩

def bytes : MemberType := ⟨fun v => v.toBytes.map .bytes, .bytes []⟩

def json : MemberType := ⟨fun v => v.toJson.map .json, .json .null⟩

/-- The optional values of a type: a NULL is nothing, an error of any other kind stays. -/
def optional (t : MemberType) : MemberType where
  read v := match v.optional? t.read with
    | .ok (some c) => .ok (.present c)
    | .ok none => .ok .absent
    | .error e => .error e
  initial := .absent

end MemberType

def integerTypes : List IntegerType := [.i8, .i16, .i32, .i64, .isize, .u8, .u16, .u32, .u64, .usize]

/-- The member type of a type that is not optional: by its name, by `foreign` otherwise. -/
def plainType (foreign : TypeExpr → MemberType) (t : TypeExpr) : MemberType :=
  match t.fieldType, t.last? with
  | .json, _ => .json
  | .boolean, _ => .boolean
  | .text, _ => .text
  | .binary, _ => .bytes
  | .integer, some s | .unsigned, some s => match integerTypes.find? (·.name = s.ident) with
    | some type => .integer type
    | none => foreign t
  | .float, some s => if s.ident = "f32" then .single else .double
  | _, _ => foreign t

theorem Segment.sizeOf_lt_of_firstType? {s : Segment} {t : TypeExpr} (h : s.firstType? = some t) :
    sizeOf t < sizeOf s := by
  match s, h with
  | .mk _ (some (.type _ :: _)), h =>
    simp only [Segment.firstType?, Option.some.injEq] at h
    subst h
    simp
    omega

theorem TypeExpr.sizeOf_lt_of_optionInner? {t u : TypeExpr} (h : t.optionInner? = some u) : sizeOf u < sizeOf t := by
  unfold TypeExpr.optionInner? at h
  split at h
  · rename_i s hs
    split at h
    · have hu := Segment.sizeOf_lt_of_firstType? h
      cases t with
      | other text => simp [TypeExpr.last?] at hs
      | path rooted segments =>
        have hm : s ∈ segments := List.mem_of_getLast? hs
        have := List.sizeOf_lt_of_mem hm
        simp
        omega
    · cases h
  · cases h

/-- The member type of any type: optional types are those of what may be missing. -/
def memberType (foreign : TypeExpr → MemberType) (t : TypeExpr) : MemberType :=
  match _h : t.optionInner? with
  | some u => (memberType foreign u).optional
  | none => plainType foreign t
termination_by sizeOf t
decreasing_by exact TypeExpr.sizeOf_lt_of_optionInner? _h

theorem memberType_of_optionInner? (foreign : TypeExpr → MemberType) {t u : TypeExpr} (h : t.optionInner? = some u) :
    memberType foreign t = (memberType foreign u).optional := by
  rw [memberType]
  split
  · rename_i v hv
    rw [h] at hv
    cases hv
    rfl
  · rename_i hv
    rw [h] at hv
    cases hv

theorem memberType_of_not_optional (foreign : TypeExpr → MemberType) {t : TypeExpr} (h : t.optionInner? = none) :
    memberType foreign t = plainType foreign t := by
  rw [memberType]
  split
  · rename_i hv
    rw [h] at hv
    cases hv
  · rfl

/-- A derived entity type: its definition, and the member type of every type expression.
    A type written as an optional one has the optional values of the type inside. -/
structure Derived where
  key : TypeKey
  definition : Definition
  types : TypeExpr → MemberType
  optional_types : ∀ t u, t.optionInner? = some u → types t = (types u).optional
  accepted : definition.expand.toOption.isSome

namespace Derived

def expansion (d : Derived) : Expansion := d.definition.expand.toOption.get d.accepted

/-- The contents of all members, in the order of the definition. -/
def Record (d : Derived) : Type := Vector Content d.definition.members.length

variable {d : Derived}

instance : DecidableEq d.Record := inferInstanceAs (DecidableEq (Vector Content _))

def Record.contents (r : d.Record) : List Content := Vector.toList r

/-- Replaces the content of one member. -/
def Record.put (r : d.Record) (position : Nat) (c : Content) : d.Record := Vector.setIfInBounds r position c

instance : Inhabited d.Record :=
  ⟨Vector.ofFn fun i => (d.types (d.definition.members[i]).type).initial⟩

/-- Converts a value for the field at an index. -/
def read (d : Derived) (index : Nat) (v : Value) : Except ExtractError (Slot × Content) :=
  match d.expansion.slots[index]? with
  | none => .error (.unknownField index)
  | some slot => match (d.types slot.member.type).read v with
    | .ok c => .ok (slot, c)
    | .error e => .error e

instance : Entity d.Record where
  key := d.key
  declaration := d.expansion.declaration
  bindField index v r := match d.read index v with
    | .ok (slot, c) => (.ok (), r.put slot.position c)
    | .error e => (.error e, r)
  checkField index v := match d.read index v with
    | .ok _ => .ok ()
    | .error e => .error e

end Derived

end EntityQuery.Derive
