/-
  EntityQuery.Proofs.Derive.Conditions — which definitions an entity can be derived from, and what
  the others are refused for.

  Expanding reads the attributes of a definition in several places and returns from each of them
  early. What it asks for altogether is a list of conditions (`Definition.conditions`): the table,
  the shape, and of each member in turn that each of its attributes is well written, that it is
  not skipped and mapped at once, and that a nullable mark stands on an optional type. Each
  condition says when it holds (`Condition.Holds`) and what is reported where it does not
  (`Condition.Reports`).

  An answer is judged by conditions if it is a success where all of them hold, and otherwise the
  report of the first that does not (`Judged`). Answers put together one after another are
  judged by their conditions one after another, so the reading of attributes, of one member and
  of all members are (`readAll_judged`, `slot_judged`, `slotsFrom_judged`), and with them the
  whole (`expand_judged`).

  `derived_or_first_violated`: an entity is derived exactly if all conditions hold, an error is
  answered exactly if the first violated condition reports it, and what is derived has no empty
  name left that describing would refuse.
-/
import EntityQuery.Proofs.Derive.Accessors
import EntityQuery.Proofs.Schema.Checks

namespace EntityQuery.Derive

open Schema

/-! ## Attributes -/

namespace Attribute

/-- The attribute is a name and a string literal that is not empty. -/
def GivesText (a : Attribute) : Prop := ∃ s, a.text? = some s ∧ s ≠ ""

/-- What is reported of an attribute that should have been one. -/
inductive TextFault (a : Attribute) : ExpandError → Prop
  | missingValue : a.form = .bare → TextFault a (.missingValue a.name)
  | expectedEquals {tokens : String} : a.form = .list tokens → TextFault a .expectedEquals
  | notText {source : String} : a.form = .expression source none → TextFault a (.notText a.name)
  | emptyName : a.text? = some "" → TextFault a (.emptyName a.name)

variable {a : Attribute} {e e' : ExpandError}

theorem TextFault.not_givesText (h : a.TextFault e) : ¬ a.GivesText := by
  rintro ⟨s, hs, hne⟩
  cases h with
  | missingValue hf | expectedEquals hf | notText hf => simp [text?, hf] at hs
  | emptyName he =>
    rw [he] at hs
    exact hne (Option.some.inj hs).symm

theorem TextFault.unique (h : a.TextFault e) (h' : a.TextFault e') : e = e' := by
  cases h with
  | missingValue hf =>
    cases h' with
    | missingValue => rfl
    | expectedEquals hf' | notText hf' => rw [hf] at hf'; cases hf'
    | emptyName he => simp [text?, hf] at he
  | expectedEquals hf =>
    cases h' with
    | expectedEquals => rfl
    | missingValue hf' | notText hf' => rw [hf] at hf'; cases hf'
    | emptyName he => simp [text?, hf] at he
  | notText hf =>
    cases h' with
    | notText => rfl
    | missingValue hf' | expectedEquals hf' => rw [hf] at hf'; cases hf'
    | emptyName he => simp [text?, hf] at he
  | emptyName he =>
    cases h' with
    | emptyName => rfl
    | missingValue hf | expectedEquals hf | notText hf => simp [text?, hf] at he

/-- The attribute gives a text, or is refused for what is wrong with it. -/
theorem value_cases (a : Attribute) :
    (a.GivesText ∧ ∃ s, a.value = .ok s) ∨ ∃ e, a.value = .error e ∧ a.TextFault e := by
  have hliteral : ∀ s, a.text? = some s → a.value = (if s = "" then .error (.emptyName a.name) else .ok s) →
      (a.GivesText ∧ ∃ s, a.value = .ok s) ∨ ∃ e, a.value = .error e ∧ a.TextFault e := by
    intro s ht hv
    by_cases hs : s = ""
    · rw [if_pos hs] at hv
      exact Or.inr ⟨_, hv, .emptyName (hs ▸ ht)⟩
    · rw [if_neg hs] at hv
      exact Or.inl ⟨⟨s, ht, hs⟩, s, hv⟩
  cases hf : a.form with
  | bare => exact Or.inr ⟨_, by simp [value, hf], .missingValue hf⟩
  | list tokens => exact Or.inr ⟨_, by simp [value, hf], .expectedEquals hf⟩
  | text s => exact hliteral s (by simp [text?, hf]) (by simp [value, hf])
  | expression source literal =>
    cases literal with
    | none => exact Or.inr ⟨_, by simp [value, hf], .notText hf⟩
    | some s => exact hliteral s (by simp [text?, hf]) (by simp [value, hf])

theorem flag_cases (a : Attribute) :
    (a.form = .bare ∧ a.flag = .ok ()) ∨ (a.form ≠ .bare ∧ a.flag = .error .unexpectedToken) := by
  cases hf : a.form with
  | bare => exact Or.inl ⟨rfl, by simp [flag, hf]⟩
  | text s | list s | expression s _ => exact Or.inr ⟨by simp, by simp [flag, hf]⟩

end Attribute

/-! ## Conditions -/

/-- What is asked of a definition. -/
inductive Condition where
  /-- The first attribute for the table, if there is any, gives a text. -/
  | table (attributes : List Attribute)
  /-- There are named fields, or no fields at all. -/
  | shape (s : Shape)
  /-- One attribute of a member is written as its name demands. -/
  | attribute (a : Attribute)
  /-- The member is not skipped and mapped at once. -/
  | unmapped (f : Member)
  /-- The member has an optional type if it is marked as nullable and not skipped. -/
  | optional (f : Member)

/-- The attributes of a member that are their name alone. -/
def flagNames : List String := ["primary_key", "nullable", "skip"]

namespace Condition

def Holds : Condition → Prop
  | .table attributes => ∀ a, attributes.find? (·.name = "table_name") = some a → a.GivesText
  | .shape s => s = .unit ∨ ∃ members, s = .named members
  | .attribute a => (a.name = "column_name" → a.GivesText) ∧ (a.name ∈ flagNames → a.form = .bare)
  | .unmapped f => mentions "skip" f.attributes = true →
      mentions "primary_key" f.attributes = false ∧ mentions "column_name" f.attributes = false
  | .optional f => mentions "skip" f.attributes = false → mentions "nullable" f.attributes = true →
      f.type.optionInner?.isSome = true

/-- What is reported of a condition that does not hold. -/
inductive Reports : Condition → ExpandError → Prop
  | table {attributes : List Attribute} {a : Attribute} {e : ExpandError} :
      attributes.find? (·.name = "table_name") = some a → a.TextFault e → Reports (.table attributes) e
  | shape {s : Shape} : ¬ (shape s).Holds → Reports (.shape s) .notNamedFields
  | text {a : Attribute} {e : ExpandError} : a.name = "column_name" → a.TextFault e → Reports (.attribute a) e
  | flag {a : Attribute} : a.name ∈ flagNames → a.form ≠ .bare → Reports (.attribute a) .unexpectedToken
  | unmapped {f : Member} : ¬ (unmapped f).Holds → Reports (.unmapped f) .skippedMapping
  | optional {f : Member} : ¬ (optional f).Holds → Reports (.optional f) .nullableNotOptional

variable {c : Condition} {e e' : ExpandError}

theorem Reports.not_holds (h : c.Reports e) : ¬ c.Holds := by
  cases h with
  | table hf ht => exact fun hc => ht.not_givesText (hc _ hf)
  | text hn ht => exact fun hc => ht.not_givesText (hc.1 hn)
  | flag hn hf => exact fun hc => hf (hc.2 hn)
  | shape h | unmapped h | optional h => exact h

theorem Reports.unique (h : c.Reports e) (h' : c.Reports e') : e = e' := by
  have hname : "column_name" ∉ flagNames := by decide
  cases h with
  | table hf ht =>
    cases h' with
    | table hf' ht' =>
      rw [hf] at hf'
      cases hf'
      exact ht.unique ht'
  | text hn ht =>
    cases h' with
    | text _ ht' => exact ht.unique ht'
    | flag hn' => rw [hn] at hn'; exact absurd hn' hname
  | flag hn =>
    cases h' with
    | text hn' => rw [hn'] at hn; exact absurd hn hname
    | flag => rfl
  | shape => cases h'; rfl
  | unmapped => cases h'; rfl
  | optional => cases h'; rfl

end Condition

/-- The error is what the first of the conditions that does not hold reports. -/
def FirstViolated (cs : List Condition) (e : ExpandError) : Prop :=
  ∃ before c after, cs = before ++ c :: after ∧ (∀ b ∈ before, b.Holds) ∧ ¬ c.Holds ∧ c.Reports e

namespace FirstViolated

variable {c : Condition} {cs xs ys : List Condition} {e e' : ExpandError}

theorem head (h : c.Reports e) : FirstViolated (c :: cs) e := ⟨[], c, cs, rfl, by simp, h.not_holds, h⟩

theorem append_left (h : FirstViolated xs e) : FirstViolated (xs ++ ys) e := by
  obtain ⟨before, c, after, rfl, hb, hc⟩ := h
  exact ⟨before, c, after ++ ys, by simp, hb, hc⟩

theorem append_right (hx : ∀ c ∈ xs, c.Holds) (h : FirstViolated ys e) : FirstViolated (xs ++ ys) e := by
  obtain ⟨before, c, after, rfl, hb, hc⟩ := h
  exact ⟨xs ++ before, c, after, by simp, List.forall_mem_append.mpr ⟨hx, hb⟩, hc⟩

theorem not_forall (h : FirstViolated cs e) : ¬ ∀ c ∈ cs, c.Holds := by
  obtain ⟨before, c, after, rfl, -, hc, -⟩ := h
  exact fun hall => hc (hall c (by simp))

theorem cons_iff : FirstViolated (c :: cs) e ↔ c.Reports e ∨ (c.Holds ∧ FirstViolated cs e) := by
  constructor
  · rintro ⟨before, d, after, hsplit, hb, hd, hr⟩
    cases before with
    | nil =>
      cases hsplit
      exact Or.inl hr
    | cons b before =>
      cases hsplit
      rw [List.forall_mem_cons] at hb
      exact Or.inr ⟨hb.1, before, d, after, rfl, hb.2, hd, hr⟩
  · rintro (h | ⟨hc, h⟩)
    · exact head h
    · have hone : ∀ b ∈ [c], b.Holds := by simpa using hc
      exact append_right hone h

theorem unique (h : FirstViolated cs e) (h' : FirstViolated cs e') : e = e' := by
  induction cs with
  | nil =>
    obtain ⟨before, c, after, hsplit, -⟩ := h
    simp at hsplit
  | cons c cs ih =>
    rw [cons_iff] at h h'
    rcases h with h | ⟨hc, h⟩
    · rcases h' with h' | ⟨hc, -⟩
      · exact h.unique h'
      · exact absurd hc h.not_holds
    · rcases h' with h' | ⟨-, h'⟩
      · exact absurd hc h'.not_holds
      · exact ih h h'

end FirstViolated

/-- A success if all conditions hold, and otherwise the report of the first that does not. -/
def Judged {α : Type} (cs : List Condition) : Except ExpandError α → Prop
  | .ok _ => ∀ c ∈ cs, c.Holds
  | .error e => FirstViolated cs e

/-- A second answer, that fails where the first one does, is judged by more conditions. -/
theorem Judged.append {α β : Type} {xs ys : List Condition} {r : Except ExpandError α} {s : Except ExpandError β}
    (h : Judged xs r) (herror : ∀ e, r = .error e → s = .error e) (hok : ∀ a, r = .ok a → Judged ys s) :
    Judged (xs ++ ys) s := by
  cases r with
  | error e =>
    rw [herror e rfl]
    exact FirstViolated.append_left h
  | ok a =>
    have hs := hok a rfl
    cases s with
    | error e => exact FirstViolated.append_right h hs
    | ok b => exact List.forall_mem_append.mpr ⟨h, hs⟩

/-! ## One member -/

theorem Marks.read_judged (m : Marks) (a : Attribute) : Judged [.attribute a] (m.read a) := by
  have hsuccess : ∀ m', (Condition.attribute a).Holds → Judged [.attribute a] (.ok m' : Except ExpandError Marks) :=
    fun m' h => by simpa [Judged] using h
  unfold Marks.read
  by_cases hcolumn : a.name = "column_name"
  · rw [if_pos hcolumn]
    rcases a.value_cases with ⟨ht, s, hv⟩ | ⟨e, hv, ht⟩
    · rw [hv]
      exact hsuccess _ ⟨fun _ => ht, by simp [hcolumn, flagNames]⟩
    · rw [hv]
      exact .head (.text hcolumn ht)
  rw [if_neg hcolumn]
  by_cases hname : a.name ∈ flagNames
  · rcases a.flag_cases with ⟨hf, hflag⟩ | ⟨hf, hflag⟩
    · have hholds : (Condition.attribute a).Holds := ⟨fun hn => absurd hn hcolumn, fun _ => hf⟩
      rw [hflag]
      dsimp only
      split
      · exact hsuccess _ hholds
      · split
        · exact hsuccess _ hholds
        · split
          · exact hsuccess _ hholds
          · exact hsuccess _ hholds
    · have hreports : Judged [.attribute a] (.error .unexpectedToken : Except ExpandError Marks) :=
        .head (.flag hname hf)
      simp only [flagNames, List.mem_cons, List.not_mem_nil, or_false] at hname
      rw [hflag]
      rcases hname with hn | hn | hn
      · simpa [hn] using hreports
      · simpa [hn] using hreports
      · simpa [hn] using hreports
  · have hholds : (Condition.attribute a).Holds := ⟨fun hn => absurd hn hcolumn, fun hn => absurd hn hname⟩
    simp only [flagNames, List.mem_cons, List.not_mem_nil, or_false, not_or] at hname
    simpa [hname] using hsuccess m hholds

theorem readAll_judged (m : Marks) (attributes : List Attribute) :
    Judged (attributes.map .attribute) (m.readAll attributes) := by
  induction attributes generalizing m with
  | nil => simp [Marks.readAll, Judged]
  | cons a attributes ih =>
    rw [Marks.readAll, List.map_cons]
    refine (m.read_judged a).append (fun e he => by rw [he]) fun m' hm' => ?_
    rw [hm']
    exact ih m'

theorem Marks.nullable_of_read {m m' : Marks} {a : Attribute} (h : m.read a = .ok m') :
    m'.nullable = (m.nullable || decide (a.name = "nullable")) := by
  unfold Marks.read at h
  split at h
  · rename_i hn
    split at h
    · cases h; simp [hn]
    · cases h
  · split at h
    · rename_i hn
      split at h
      · cases h; simp [hn]
      · cases h
    · split at h
      · rename_i hn
        split at h
        · cases h; simp [hn]
        · cases h
      · rename_i hnullable
        split at h
        · split at h
          · cases h; simp [hnullable]
          · cases h
        · cases h; simp [hnullable]

theorem Marks.nullable_of_readAll {attributes : List Attribute} {m m' : Marks} (h : m.readAll attributes = .ok m') :
    m'.nullable = (m.nullable || mentions "nullable" attributes) := by
  induction attributes generalizing m with
  | nil => cases h; simp [mentions]
  | cons a attributes ih =>
    unfold Marks.readAll at h
    split at h
    · rename_i m1 h1
      rw [ih h, Marks.nullable_of_read h1, mentions, mentions, List.any_cons, Bool.or_assoc]
    · cases h

/-- The last attribute of a name gives a text if each of them does. -/
theorem lastText_of_givesText {name : String} {attributes : List Attribute}
    (h : ∀ a ∈ attributes, a.name = name → a.GivesText) :
    (lastText name attributes).isSome = mentions name attributes ∧ lastText name attributes ≠ some "" := by
  unfold lastText
  cases hl : (attributes.filter (·.name = name)).getLast? with
  | none =>
    have hnone : ∀ a ∈ attributes, ¬ a.name = name := by simpa using List.getLast?_eq_none_iff.mp hl
    simpa [mentions] using hnone
  | some a =>
    obtain ⟨ha, hn⟩ := List.mem_filter.mp (List.mem_of_getLast? hl)
    obtain ⟨s, hs, hne⟩ := h a ha (of_decide_eq_true hn)
    have hm : mentions name attributes = true := List.any_eq_true.mpr ⟨a, ha, hn⟩
    simp [hs, hne, hm]

/-- What is asked of a member, in the order in which it is reported. -/
def Member.conditions (f : Member) : List Condition := f.attributes.map .attribute ++ [.unmapped f] ++ [.optional f]

/-- The marks of a member are those of its attributes, each of which is as it should be. -/
theorem Member.marks_eq_ok {f : Member} {m : Marks} (h : Marks.readAll {} f.attributes = .ok m) :
    m.skipped = mentions "skip" f.attributes ∧ m.primaryKey = mentions "primary_key" f.attributes ∧
      m.column.isSome = mentions "column_name" f.attributes ∧ m.nullable = mentions "nullable" f.attributes := by
  have hof : m.Of f.attributes := Marks.of_readAll (show Marks.Of [] _ from ⟨rfl, rfl, rfl⟩) h
  have hall := readAll_judged {} f.attributes
  rw [h] at hall
  have htext : ∀ a ∈ f.attributes, a.name = "column_name" → a.GivesText :=
    fun a ha => (hall _ (List.mem_map_of_mem ha)).1
  refine ⟨hof.skipped, hof.primaryKey, ?_, by simpa using Marks.nullable_of_readAll h⟩
  rw [hof.column]
  exact (lastText_of_givesText htext).1

theorem marks_judged (f : Member) : Judged (f.attributes.map .attribute ++ [.unmapped f]) f.marks := by
  unfold Member.marks
  refine (readAll_judged {} f.attributes).append (fun e he => by rw [he]) fun m hm => ?_
  obtain ⟨hskip, hkey, hcolumn, -⟩ := Member.marks_eq_ok hm
  have hconflict : (m.skipped && (m.primaryKey || m.column.isSome)) = true ↔ ¬ (Condition.unmapped f).Holds := by
    rw [hskip, hkey, hcolumn, Condition.Holds, Bool.and_eq_true, Bool.or_eq_true, Classical.not_imp,
      Classical.not_and_iff_not_or_not, Bool.not_eq_false, Bool.not_eq_false]
  rw [hm]
  dsimp only
  by_cases h : (Condition.unmapped f).Holds
  · rw [if_neg fun hc => hconflict.mp hc h]
    simpa [Judged] using h
  · rw [if_pos (hconflict.mpr h)]
    exact .head (.unmapped h)

theorem Member.readAll_of_marks {f : Member} {m : Marks} (h : f.marks = .ok m) :
    Marks.readAll {} f.attributes = .ok m := by
  unfold Member.marks at h
  split at h
  · cases h
  · rename_i m' hm'
    split at h
    · cases h
    · rw [hm', Except.ok.inj h]

theorem slot_judged (f : Member) (position : Nat) : Judged f.conditions (f.slot position) := by
  unfold Member.slot Member.conditions
  refine (marks_judged f).append (fun e he => by rw [he]) fun m hm => ?_
  obtain ⟨hskip, -, -, hnullable⟩ := Member.marks_eq_ok (Member.readAll_of_marks hm)
  rw [hm]
  dsimp only
  rw [hskip, hnullable]
  cases hs : mentions "skip" f.attributes with
  | true => simp [Judged, Condition.Holds, hs]
  | false =>
    have hrigid : (mentions "nullable" f.attributes && f.type.optionInner?.isNone) = true ↔
        ¬ (Condition.optional f).Holds := by
      simp [Condition.Holds, hs]
    rw [if_neg Bool.false_ne_true]
    by_cases h : (Condition.optional f).Holds
    · rw [if_neg fun hc => hrigid.mp hc h]
      simpa [Judged] using h
    · rw [if_pos (hrigid.mpr h)]
      exact .head (.optional h)

/-! ## Whole definitions -/

theorem slotsFrom_judged (position : Nat) (fs : List Member) :
    Judged (fs.flatMap (·.conditions)) (slotsFrom position fs) := by
  induction fs generalizing position with
  | nil => simp [slotsFrom, Judged]
  | cons f fs ih =>
    have hrest : Judged (fs.flatMap (·.conditions)) (slotsFrom (position + 1) fs) := ih (position + 1)
    rw [List.flatMap_cons, slotsFrom]
    refine (slot_judged f position).append (fun e he => by rw [he]) fun slot hslot => ?_
    rw [hslot]
    dsimp only
    cases hslots : slotsFrom (position + 1) fs with
    | error e => rw [hslots] at hrest; exact hrest
    | ok slots => rw [hslots] at hrest; exact hrest

theorem tableOf_judged (attributes : List Attribute) : Judged [.table attributes] (tableOf attributes) := by
  unfold tableOf
  cases hf : attributes.find? (·.name = "table_name") with
  | none => simp [Judged, Condition.Holds, hf]
  | some a =>
    rcases a.value_cases with ⟨ht, s, hv⟩ | ⟨e, hv, ht⟩
    · dsimp only
      rw [hv]
      simpa [Judged, Condition.Holds, hf] using ht
    · dsimp only
      rw [hv]
      exact .head (.table hf ht)

/-- What is asked of a definition, in the order in which it is reported. -/
def Definition.conditions (d : Definition) : List Condition :=
  [.table d.attributes] ++ ([.shape d.shape] ++ d.members.flatMap (·.conditions))

theorem expand_judged (d : Definition) : Judged d.conditions d.expand := by
  unfold Definition.expand Definition.conditions
  refine (tableOf_judged d.attributes).append (fun e he => by rw [he]) fun table htable => ?_
  rw [htable, Definition.members]
  dsimp only
  cases hs : d.shape with
  | named members =>
    have hshape : (Condition.shape (.named members)).Holds := Or.inr ⟨members, rfl⟩
    have hslots := slotsFrom_judged 0 members
    dsimp only
    cases h : slotsFrom 0 members with
    | error e =>
      rw [h] at hslots
      exact FirstViolated.append_right (by simpa using hshape) hslots
    | ok slots =>
      rw [h] at hslots
      exact List.forall_mem_append.mpr ⟨by simpa using hshape, hslots⟩
  | unit =>
    have hshape : (Condition.shape .unit).Holds := Or.inl rfl
    simpa [Judged] using hshape
  | tuple | enumeration | union => exact .head (.shape (by simp [Condition.Holds]))

theorem exists_expand_iff {d : Definition} : (∃ x, d.expand = .ok x) ↔ ∀ c ∈ d.conditions, c.Holds := by
  have h := expand_judged d
  cases hx : d.expand with
  | ok x => rw [hx] at h; exact iff_of_true ⟨x, rfl⟩ h
  | error e => rw [hx] at h; exact iff_of_false (by simp) h.not_forall

theorem expand_eq_error_iff {d : Definition} {e : ExpandError} :
    d.expand = .error e ↔ FirstViolated d.conditions e := by
  have h := expand_judged d
  cases hx : d.expand with
  | ok x =>
    rw [hx] at h
    exact iff_of_false (by simp) fun hv => hv.not_forall h
  | error e' =>
    rw [hx] at h
    rw [Except.error.injEq]
    constructor
    · rintro rfl
      exact h
    · exact h.unique

/-! ## What is derived -/

variable {d : Definition} {x : Expansion}

theorem table_of_expand (h : d.expand = .ok x) : x.table ≠ some "" := by
  have hall := exists_expand_iff.mp ⟨x, h⟩
  have htable : (Condition.table d.attributes).Holds := hall _ (by simp [Definition.conditions])
  rw [tableOf_eq_ok (Definition.parts_of_expand h).2.1]
  cases hf : d.attributes.find? (·.name = "table_name") with
  | none => simp
  | some a =>
    obtain ⟨s, hs, hne⟩ := htable a hf
    simp [hs, hne]

/-- The declared fields are those of the members that are not skipped. -/
theorem fields_of_expand (h : d.expand = .ok x) :
    x.declaration.fields = (d.members.filter fun f => !f.isSkipped).map (·.declared) := by
  have hslots : ∀ (n : Nat) (fs : List Member), ((fs.zipIdx n).filterMap fun y => y.1.slot? y.2).map (·.declaration) =
      (fs.filter fun f => !f.isSkipped).map (·.declared) := by
    intro n fs
    induction fs generalizing n with
    | nil => rfl
    | cons f fs ih =>
      rw [List.zipIdx_cons, List.filterMap_cons]
      cases hs : f.isSkipped with
      | true => simpa [Member.slot?, hs] using ih (n + 1)
      | false => simpa [Member.slot?, hs] using ih (n + 1)
  rw [Expansion.declaration, slotsFrom_eq_ok (Definition.parts_of_expand h).2.2]
  exact hslots 0 d.members

theorem column_of_expand (h : d.expand = .ok x) {g : FieldDeclaration} (hg : g ∈ x.declaration.fields) :
    g.column ≠ some "" := by
  have hall := exists_expand_iff.mp ⟨x, h⟩
  rw [fields_of_expand h] at hg
  obtain ⟨f, hf, rfl⟩ := List.mem_map.mp hg
  have hf := (List.mem_filter.mp hf).1
  have htext : ∀ a ∈ f.attributes, a.name = "column_name" → a.GivesText := by
    intro a ha
    have hmem : Condition.attribute a ∈ f.conditions := by simp [Member.conditions, ha]
    have hcondition : Condition.attribute a ∈ d.conditions :=
      List.mem_append_right _ (List.mem_append_right _ (List.mem_flatMap.mpr ⟨f, hf, hmem⟩))
    exact (hall _ hcondition).1
  exact (lastText_of_givesText htext).2

/-- An entity is derived exactly if all conditions on its definition hold: the first attribute for
    the table gives a text, there are named fields or none at all, and of each member its
    attributes are well written, it is not skipped and mapped at once, and it is optional if it is
    marked as nullable and not skipped. An error is answered exactly if the first violated
    condition, in that order, reports it. What is derived can be refused as a declaration only
    because all members are skipped, or two have one column, or two are marked as primary key:
    never for an empty name. -/
theorem derived_or_first_violated (d : Definition) :
    ((∃ x, d.expand = .ok x) ↔ ∀ c ∈ d.conditions, c.Holds) ∧
    (∀ e, d.expand = .error e ↔ FirstViolated d.conditions e) ∧
    ∀ x, d.expand = .ok x → ∀ e, x.declaration.describe = .error e →
      (e = .noFields d.name ∧ ∀ f ∈ d.members, f.isSkipped = true) ∨
      (∃ column first second, e = .duplicateColumn d.name column first second) ∨
      ∃ first second, e = .multiplePrimaryKeys d.name first second := by
  refine ⟨exists_expand_iff, fun e => expand_eq_error_iff, fun x hx e he => ?_⟩
  have hname : x.declaration.name = d.name := (Definition.parts_of_expand hx).1
  rw [← hname]
  cases describe_eq_error_iff.mp he with
  | noFields hf =>
    rw [fields_of_expand hx, List.map_eq_nil_iff, List.filter_eq_nil_iff] at hf
    exact Or.inl ⟨rfl, by simpa using hf⟩
  | emptyTable _ ht => exact absurd ht (table_of_expand hx)
  | firstFault _ _ hfault =>
    obtain ⟨i, f, hf, hfault, -⟩ := hfault
    cases hfault with
    | emptyName hn => exact absurd hn (column_of_expand hx (List.mem_of_getElem? hf))
    | duplicateColumn => exact Or.inr (Or.inl ⟨_, _, _, rfl⟩)
    | multiplePrimaryKeys => exact Or.inr (Or.inr ⟨_, _, rfl⟩)

open Samples

/-- Its first member is skipped and mapped, but before that is looked at, its last attribute is
    found to have a value. -/
def draft : Definition := ⟨"Draft", [table "drafts", table ""], .named
  [⟨"note", [⟨"skip", .bare⟩, column "body", ⟨"nullable", .text "yes"⟩], .named "String"⟩,
    ⟨"size", [column ""], .named "i32"⟩]⟩

theorem derived_or_first_violated_draft :
    FirstViolated draft.conditions .unexpectedToken ∧ (∀ x, draft.expand ≠ .ok x) ∧
      ∃ x, nothing.expand = .ok x ∧ (∀ c ∈ nothing.conditions, c.Holds) ∧
        x.declaration.describe = .error (.noFields "Nothing") := by
  obtain ⟨-, hdraft, -⟩ := derived_or_first_violated draft
  obtain ⟨hnothing, -, -⟩ := derived_or_first_violated nothing
  exact ⟨(hdraft _).mp rfl, fun x hx => (by cases hx), ⟨"Nothing", none, []⟩, rfl, hnothing.mp ⟨_, rfl⟩, rfl⟩

end EntityQuery.Derive
