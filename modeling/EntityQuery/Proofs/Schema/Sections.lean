/-
  EntityQuery.Proofs.Schema.Sections — one registry, described from many threads.

  Describing a type is two sections, and between the two of one thread any other thread may
  take any of its own. Two threads can so both miss a type before either describes it. A run is a list of
  sections in the order in which they were taken; a section that its thread cannot take then
  changes nothing. `Shared` is what the sections work on: the registry, the type that each
  thread in the middle of a call has missed, and what the finished calls were answered.

  - `Takes` says what a section does when it can be taken, one case for each way it can go.
  - `Sound` is what every section keeps of the registry (`Sound.enrol`): as many descriptors
    built and lines logged as types cached, no type twice, each with the descriptor of its
    declaration and a serial of its own.
  - `Kept` is what every section keeps of all (`Kept.take`, `Kept.run`): every answer is the
    cached entry of its type, or why its declaration is malformed, and every cached entry has been
    an answer.
  - `describe_eq_sections`: the two sections of a call with nothing between them are
    `Registry.describe`.
  - `keys_run`: the types cached by a run are those it built a descriptor for, in order.

  `described_once`: all of it for every run and every continuation of it.
-/
import Mathlib.Data.Finset.Card
import Mathlib.Logic.Function.Basic
import EntityQuery.Proofs.Schema.Described

namespace EntityQuery.Schema

/-! ## The registry -/

namespace Registry

variable {declared : TypeKey → Declaration} {r : Registry} {key k : TypeKey} {decl : Declaration} {e : Entry}

/-- The exclusive section finds the type described meanwhile, or refuses its declaration, or
    builds a descriptor. -/
theorem enrol_cases (r : Registry) (key : TypeKey) (decl : Declaration) :
    (∃ e, r.lookup key = some e ∧ r.enrol key decl = (.ok e, r)) ∨
    (∃ e, r.lookup key = none ∧ decl.describe = .error e ∧ r.enrol key decl = (.error e, r)) ∨
    ∃ d, r.lookup key = none ∧ decl.describe = .ok d ∧
      r.enrol key decl = (.ok ⟨r.built, d⟩,
        ⟨r.entries ++ [(key, ⟨r.built, d⟩)], r.built + 1, r.log ++ [d.summary]⟩) := by
  unfold enrol
  cases hl : r.lookup key with
  | some e => exact Or.inl ⟨e, rfl, rfl⟩
  | none =>
    cases hd : decl.describe with
    | error e => exact Or.inr (Or.inl ⟨e, rfl, rfl, rfl⟩)
    | ok d => exact Or.inr (Or.inr ⟨d, rfl, rfl, rfl⟩)

/-- It leaves the registry as it was, or adds the descriptor built. -/
theorem enrol_keeps_or_adds (r : Registry) (key : TypeKey) (decl : Declaration) :
    (r.enrol key decl).2 = r ∨ ∃ d, r.lookup key = none ∧ decl.describe = .ok d ∧
      r.enrol key decl = (.ok ⟨r.built, d⟩,
        ⟨r.entries ++ [(key, ⟨r.built, d⟩)], r.built + 1, r.log ++ [d.summary]⟩) := by
  rcases r.enrol_cases key decl with ⟨_, -, he⟩ | ⟨_, -, -, he⟩ | hadded
  · exact Or.inl (by rw [he])
  · exact Or.inl (by rw [he])
  · exact Or.inr hadded

/-- The types cached, in the order of their serials. -/
def keys (r : Registry) : List TypeKey := r.entries.map (·.1)

theorem lookup_eq_none_iff : r.lookup key = none ↔ key ∉ r.keys := by
  simp only [lookup, keys, List.lookup_eq_none_iff, bne_iff_ne, List.mem_map, not_exists, not_and]
  exact forall₂_congr fun x _ => ne_comm

theorem mem_keys_iff : key ∈ r.keys ↔ ∃ e, r.lookup key = some e := by
  rw [← Option.isSome_iff_exists, ← not_iff_not, Option.not_isSome_iff_eq_none, lookup_eq_none_iff]

/-- A cached entry stays. -/
theorem lookup_enrol (h : r.lookup k = some e) : (r.enrol key decl).2.lookup k = some e := by
  rcases r.enrol_keeps_or_adds key decl with he | ⟨d, -, -, he⟩
  · rw [he]; exact h
  · rw [he]
    simp only [lookup, List.lookup_append, Option.or_eq_some_iff] at h ⊢
    exact Or.inl h

/-- As many descriptors are built and lines logged as types are cached, no type is cached
    twice, and each has the descriptor of its declaration and its position as serial. -/
structure Sound (declared : TypeKey → Declaration) (r : Registry) : Prop where
  built : r.built = r.size
  distinct : r.keys.Nodup
  serial : ∀ (i : Nat) (x : TypeKey × Entry), r.entries[i]? = some x → x.2.serial = i
  described : ∀ x ∈ r.entries, (declared x.1).describe = .ok x.2.descriptor
  log : r.log = r.entries.map (·.2.descriptor.summary)

theorem sound_empty (declared : TypeKey → Declaration) : empty.Sound declared := by
  constructor <;> simp [empty, size, keys]

theorem Sound.enrol (hr : r.Sound declared) (key : TypeKey) : (r.enrol key (declared key)).2.Sound declared := by
  rcases r.enrol_keeps_or_adds key (declared key) with he | ⟨d, hl, hd, he⟩
  · rw [he]; exact hr
  · rw [he]
    refine ⟨?_, ?_, ?_, ?_, ?_⟩
    · simp [size, hr.built]
    · have hnew : key ∉ r.keys := lookup_eq_none_iff.mp hl
      simpa [keys] using List.Nodup.concat hnew hr.distinct
    · intro i x hx
      rw [List.getElem?_append] at hx
      split at hx
      · exact hr.serial i x hx
      · rename_i hi
        obtain ⟨h0, rfl⟩ := List.getElem?_eq_some_iff.mp hx
        have hlen : i = r.entries.length := by simp at h0; omega
        simp [hlen, hr.built, size]
    · intro x hx
      rcases List.mem_append.mp hx with hx | hx
      · exact hr.described x hx
      · cases List.mem_singleton.mp hx; exact hd
    · simp [hr.log]

theorem Sound.lookup_iff (hr : r.Sound declared) : r.lookup key = some e ↔ (key, e) ∈ r.entries :=
  lookup_eq_some_iff_mem hr.distinct

theorem Sound.describe_eq (hr : r.Sound declared) (h : r.lookup key = some e) :
    (declared key).describe = .ok e.descriptor :=
  hr.described (key, e) (hr.lookup_iff.mp h)

/-- Entries with one serial are one entry. -/
theorem Sound.serial_inj (hr : r.Sound declared) {k' : TypeKey} {e' : Entry} (h : r.lookup k = some e)
    (h' : r.lookup k' = some e') (hs : e.serial = e'.serial) : k = k' := by
  obtain ⟨i, hi⟩ := List.getElem?_of_mem (hr.lookup_iff.mp h)
  obtain ⟨j, hj⟩ := List.getElem?_of_mem (hr.lookup_iff.mp h')
  have hij : i = j := by rw [← hr.serial i _ hi, ← hr.serial j _ hj]; exact hs
  rw [hij, hj] at hi
  cases hi
  rfl

end Registry

/-! ## What calls are answered -/

variable {θ : Type} {declared : TypeKey → Declaration}

/-- What a finished call of a thread was answered. -/
structure Answer (θ : Type) where
  thread : θ
  key : TypeKey
  result : Except SchemaError Entry
  deriving DecidableEq

/-- The answer is the cached entry of its type, or why its declaration is malformed. -/
inductive Answer.Right (declared : TypeKey → Declaration) (r : Registry) : Answer θ → Prop
  | cached {thread : θ} {key : TypeKey} {e : Entry} : r.lookup key = some e → Right declared r ⟨thread, key, .ok e⟩
  | malformed {thread : θ} {key : TypeKey} {cause : SchemaError} : (declared key).describe = .error cause →
      Right declared r ⟨thread, key, .error cause⟩

/-- The answer of an exclusive section is right from then on. -/
theorem right_enrol (r : Registry) (thread : θ) (key : TypeKey) :
    Answer.Right declared (r.enrol key (declared key)).2 ⟨thread, key, (r.enrol key (declared key)).1⟩ := by
  rcases r.enrol_cases key (declared key) with ⟨e, hl, he⟩ | ⟨e, -, hd, he⟩ | ⟨d, hl, -, he⟩
  · rw [he]; exact .cached hl
  · rw [he]; exact .malformed hd
  · rw [he]
    refine .cached ?_
    simp only [Registry.lookup] at hl ⊢
    simp [List.lookup_append, hl]

theorem Answer.Right.enrol {r : Registry} {a : Answer θ} (h : a.Right declared r) (key : TypeKey) (decl : Declaration) :
    a.Right declared (r.enrol key decl).2 := by
  cases h with
  | cached hl => exact .cached (Registry.lookup_enrol hl)
  | malformed hd => exact .malformed hd

/-- The types that some answers describe successfully. -/
def successes (answers : List (Answer θ)) : List TypeKey :=
  answers.filterMap fun a => match a.result with
    | .ok _ => some a.key
    | .error _ => none

theorem mem_successes_iff {answers : List (Answer θ)} {key : TypeKey} :
    key ∈ successes answers ↔ ∃ thread e, ⟨thread, key, .ok e⟩ ∈ answers := by
  simp only [successes, List.mem_filterMap]
  constructor
  · rintro ⟨⟨thread, key', result⟩, ha, hk⟩
    cases result with
    | ok e => cases hk; exact ⟨thread, e, ha⟩
    | error cause => cases hk
  · rintro ⟨thread, e, ha⟩
    exact ⟨_, ha, rfl⟩

/-! ## Threads -/

/-- One section of a thread. -/
inductive Section (θ : Type) where
  /-- Under the shared lock; the beginning of a call. -/
  | look (thread : θ) (key : TypeKey)
  /-- Under the exclusive lock; the end of a call that has missed. -/
  | enrol (thread : θ)
  deriving DecidableEq

def Section.thread : Section θ → θ
  | .look thread _ => thread
  | .enrol thread => thread

/-- A registry and the threads that describe types with it. -/
structure Shared (θ : Type) where
  registry : Registry := {}
  /-- The type that a thread has missed, in the middle of a call. -/
  missed : θ → Option TypeKey := fun _ => none
  /-- What the finished calls were answered, in the order in which they finished. -/
  answers : List (Answer θ) := []

namespace Shared

/-- The type that a section is about. -/
def typeOf (s : Shared θ) : Section θ → Option TypeKey
  | .look _ key => some key
  | .enrol thread => s.missed thread

variable [DecidableEq θ]

section Taking

variable (declared)

def take (s : Shared θ) : Section θ → Shared θ
  | .look thread key => match s.missed thread with
    | some _ => s
    | none => match s.registry.lookup key with
      | some e => { s with answers := s.answers ++ [⟨thread, key, .ok e⟩] }
      | none => { s with missed := Function.update s.missed thread (some key) }
  | .enrol thread => match s.missed thread with
    | none => s
    | some key =>
      let (result, registry) := s.registry.enrol key (declared key)
      ⟨registry, Function.update s.missed thread none, s.answers ++ [⟨thread, key, result⟩]⟩

def run (s : Shared θ) (sections : List (Section θ)) : Shared θ := sections.foldl (take declared) s

/-- The types whose sections raise the count of descriptors built, in order. -/
def buildings (s : Shared θ) : List (Section θ) → List TypeKey
  | [] => []
  | x :: sections =>
    (if (s.take declared x).registry.built = s.registry.built then [] else (s.typeOf x).toList) ++
      (s.take declared x).buildings sections

/-- What a section does when its thread can take it. -/
inductive Takes (s : Shared θ) : Section θ → Shared θ → Prop
  | hit {thread : θ} {key : TypeKey} {e : Entry} : s.missed thread = none → s.registry.lookup key = some e →
      Takes s (.look thread key) { s with answers := s.answers ++ [⟨thread, key, .ok e⟩] }
  | miss {thread : θ} {key : TypeKey} : s.missed thread = none → s.registry.lookup key = none →
      Takes s (.look thread key) { s with missed := Function.update s.missed thread (some key) }
  | enrol {thread : θ} {key : TypeKey} : s.missed thread = some key →
      Takes s (.enrol thread) ⟨(s.registry.enrol key (declared key)).2, Function.update s.missed thread none,
        s.answers ++ [⟨thread, key, (s.registry.enrol key (declared key)).1⟩]⟩

end Taking

variable {s s' : Shared θ} {x : Section θ}

theorem take_cases (declared : TypeKey → Declaration) (s : Shared θ) (x : Section θ) :
    s.Takes declared x (s.take declared x) ∨ s.take declared x = s := by
  cases x with
  | look thread key =>
    simp only [take]
    cases hm : s.missed thread with
    | some other => exact Or.inr rfl
    | none =>
      cases hl : s.registry.lookup key with
      | some e => exact Or.inl (.hit hm hl)
      | none => exact Or.inl (.miss hm hl)
  | enrol thread =>
    simp only [take]
    cases hm : s.missed thread with
    | none => exact Or.inr rfl
    | some key => exact Or.inl (.enrol hm)

theorem take_of_takes (h : s.Takes declared x s') : s.take declared x = s' := by
  cases h with
  | hit hm hl => simp only [take, hm, hl]
  | miss hm hl => simp only [take, hm, hl]
  | enrol hm => simp only [take, hm]

theorem run_cons (s : Shared θ) (x : Section θ) (sections : List (Section θ)) :
    s.run declared (x :: sections) = (s.take declared x).run declared sections := rfl

/-- What every section that is taken keeps, every run keeps. -/
theorem run_keeps {P : Shared θ → Prop} (step : ∀ {s s' : Shared θ} {x : Section θ}, P s → s.Takes declared x s' → P s')
    (sections : List (Section θ)) (h : P s) : P (s.run declared sections) := by
  induction sections generalizing s with
  | nil => exact h
  | cons x sections ih =>
    rw [run_cons]
    apply ih
    rcases take_cases declared s x with ht | he
    · exact step h ht
    · rw [he]; exact h

/-- The two sections of a call, with nothing between them, describe the type. -/
theorem describe_eq_sections {thread : θ} (h : s.missed thread = none) (key : TypeKey) :
    let called := s.run declared [.look thread key, .enrol thread]
    called.registry = (s.registry.describe key (declared key)).2 ∧ called.missed = s.missed ∧
      called.answers = s.answers ++ [⟨thread, key, (s.registry.describe key (declared key)).1⟩] := by
  cases hl : s.registry.lookup key with
  | some e => simp [run, take, h, hl, Registry.describe]
  | none => simp [run, take, h, hl, Registry.describe, Function.update_eq_self_iff]

/-! ## What every section keeps -/

/-- The registry is sound, every answer is right, and every type cached has been answered. -/
structure Kept (declared : TypeKey → Declaration) (s : Shared θ) : Prop where
  sound : s.registry.Sound declared
  right : ∀ a ∈ s.answers, a.Right declared s.registry
  told : ∀ key ∈ s.registry.keys, key ∈ successes s.answers

omit [DecidableEq θ] in
theorem kept_start : Kept declared ({} : Shared θ) :=
  ⟨Registry.sound_empty declared, fun _ h => (by cases h), fun _ h => (by cases h)⟩

omit [DecidableEq θ] in
theorem successes_append {answers more : List (Answer θ)} :
    successes (answers ++ more) = successes answers ++ successes more :=
  List.filterMap_append ..

theorem Kept.takes (h : Kept declared s) (ht : s.Takes declared x s') : Kept declared s' := by
  cases ht with
  | hit hm hl =>
    refine ⟨h.sound, fun a ha => ?_, fun key hk => ?_⟩
    · rcases List.mem_append.mp ha with ha | ha
      · exact h.right a ha
      · cases List.mem_singleton.mp ha; exact .cached hl
    · rw [successes_append]
      exact List.mem_append_left _ (h.told key hk)
  | miss hm hl => exact ⟨h.sound, h.right, h.told⟩
  | @enrol thread key hm =>
    refine ⟨h.sound.enrol key, fun a ha => ?_, fun k hk => ?_⟩
    · rcases List.mem_append.mp ha with ha | ha
      · exact (h.right a ha).enrol key (declared key)
      · cases List.mem_singleton.mp ha; exact right_enrol s.registry thread key
    · rw [successes_append, List.mem_append]
      -- A type new to the cache is that of this section, and its entry is what the section answers.
      rcases s.registry.enrol_keeps_or_adds key (declared key) with he | ⟨d, -, -, he⟩
      · rw [he] at hk; exact Or.inl (h.told k hk)
      · rw [he] at hk ⊢
        rw [Registry.keys, List.map_append, List.mem_append] at hk
        rcases hk with hk | hk
        · exact Or.inl (h.told k hk)
        · cases List.mem_singleton.mp hk
          exact Or.inr (List.mem_singleton.mpr rfl)

theorem Kept.run (h : Kept declared s) (sections : List (Section θ)) : Kept declared (s.run declared sections) :=
  run_keeps (fun h ht => h.takes ht) sections h

/-- A cached entry never changes. -/
theorem lookup_run {key : TypeKey} {e : Entry} (sections : List (Section θ)) (h : s.registry.lookup key = some e) :
    (s.run declared sections).registry.lookup key = some e := by
  refine run_keeps (P := fun s => s.registry.lookup key = some e) (fun h ht => ?_) sections h
  cases ht with
  | hit | miss => exact h
  | enrol => exact Registry.lookup_enrol h

/-- The types cached by a run are those that it built a descriptor for, in order. -/
theorem keys_run (sections : List (Section θ)) (s : Shared θ) :
    (s.run declared sections).registry.keys = s.registry.keys ++ s.buildings declared sections := by
  induction sections generalizing s with
  | nil => simp [run, buildings]
  | cons x sections ih =>
    rw [run_cons, ih, buildings, ← List.append_assoc]
    congr 1
    rcases take_cases declared s x with ht | he
    · generalize s.take declared x = s' at ht
      cases ht with
      | hit | miss => simp
      | @enrol thread key hm =>
        rcases s.registry.enrol_keeps_or_adds key (declared key) with he | ⟨d, -, -, he⟩
        · simp [he]
        · simp [he, Registry.keys, typeOf, hm]
    · simp [he]

omit [DecidableEq θ] in
/-- As many types are cached as have been described successfully. -/
theorem Kept.size_eq (h : Kept declared s) : s.registry.size = (successes s.answers).toFinset.card := by
  have hsame : s.registry.keys.toFinset = (successes s.answers).toFinset := by
    ext key
    rw [List.mem_toFinset, List.mem_toFinset]
    refine ⟨h.told key, fun hk => ?_⟩
    obtain ⟨thread, e, ha⟩ := mem_successes_iff.mp hk
    cases h.right _ ha with
    | cached hl => exact Registry.mem_keys_iff.mpr ⟨e, hl⟩
  rw [← hsame, List.toFinset_card_of_nodup h.sound.distinct, Registry.keys, List.length_map, Registry.size]

omit [DecidableEq θ] in
/-- A type is answered by what its declaration describes, or by what is wrong with that. -/
theorem Kept.answer (h : Kept declared s) {a : Answer θ} (ha : a ∈ s.answers) :
    match (declared a.key).describe with
    | .ok d => ∃ e, a.result = .ok e ∧ e.descriptor = d ∧ s.registry.lookup a.key = some e
    | .error cause => a.result = .error cause := by
  cases h.right a ha with
  | @cached thread key e hl => simp only [h.sound.describe_eq hl]; exact ⟨e, rfl, rfl, hl⟩
  | malformed hd => simp only [hd]

/-- A section about a type whose declaration is malformed leaves the registry as it was. -/
theorem registry_take_of_malformed {key : TypeKey} {cause : SchemaError} (hx : s.typeOf x = some key)
    (hd : (declared key).describe = .error cause) : (s.take declared x).registry = s.registry := by
  rcases take_cases declared s x with ht | he
  · generalize s.take declared x = s' at ht
    cases ht with
    | hit | miss => rfl
    | @enrol thread k hm =>
      simp only [typeOf, hm, Option.some.injEq] at hx
      subst hx
      rcases s.registry.enrol_keeps_or_adds k (declared k) with he | ⟨d, -, hok, -⟩
      · simp only [he]
      · rw [hd] at hok; cases hok
  · rw [he]

/-! ## Every call is answered -/

theorem mem_answers_run {a : Answer θ} (sections : List (Section θ)) (h : a ∈ s.answers) :
    a ∈ (s.run declared sections).answers := by
  refine run_keeps (P := fun s => a ∈ s.answers) (fun h ht => ?_) sections h
  cases ht with
  | hit | enrol => exact List.mem_append_left _ h
  | miss => exact h

/-- Whether a thread is in the middle of a call is decided by its own sections. -/
theorem missed_run {thread : θ} {sections : List (Section θ)} (h : ∀ x ∈ sections, x.thread ≠ thread) (s : Shared θ) :
    (s.run declared sections).missed thread = s.missed thread := by
  induction sections generalizing s with
  | nil => rfl
  | cons x sections ih =>
    rw [List.forall_mem_cons] at h
    rw [run_cons, ih h.2]
    rcases take_cases declared s x with ht | he
    · generalize s.take declared x = s' at ht
      cases ht with
      | hit => rfl
      | miss | enrol => exact Function.update_of_ne h.1.symm _ _
    · rw [he]

/-- A call is answered by its first section or, whatever other threads do meanwhile, by its
    second. -/
theorem call_answered {thread : θ} {others : List (Section θ)} (h : s.missed thread = none) (key : TypeKey)
    (ho : ∀ x ∈ others, x.thread ≠ thread) :
    ∃ result, ⟨thread, key, result⟩ ∈ (s.run declared (.look thread key :: others ++ [.enrol thread])).answers := by
  have hrun : s.run declared (.look thread key :: others ++ [.enrol thread]) =
      ((s.take declared (.look thread key)).run declared others).take declared (.enrol thread) := by
    simp only [run, List.cons_append, List.foldl_cons, List.foldl_append, List.foldl_nil]
  cases hl : s.registry.lookup key with
  | some e =>
    refine ⟨.ok e, ?_⟩
    rw [List.cons_append, run_cons, take_of_takes (.hit h hl)]
    exact mem_answers_run _ (List.mem_append_right _ (List.mem_singleton.mpr rfl))
  | none =>
    have hm : ((s.take declared (.look thread key)).run declared others).missed thread = some key := by
      rw [missed_run ho, take_of_takes (.miss h hl)]
      exact Function.update_self ..
    rw [hrun, take_of_takes (.enrol hm)]
    exact ⟨_, List.mem_append_right _ (List.mem_singleton.mpr rfl)⟩

end Shared

open Shared in
/-- After any sections of any threads: as many descriptors have been built as types are cached,
    and as many as have been described successfully; those built for are the types cached, each
    once and with one line logged for it; a cached entry describes the declaration of its
    type, is there after any more sections and is that of no other type; a finished call
    was answered with the cached entry of its type, or with what is wrong with the
    declaration; every call is answered, whatever other threads do between its sections; and
    a section about a malformed type leaves cache, count and log alone. -/
theorem described_once {θ : Type} [DecidableEq θ] (declared : TypeKey → Declaration)
    (sections later : List (Section θ)) :
    let s := ({} : Shared θ).run declared sections
    let built := ({} : Shared θ).buildings declared sections
    s.registry.built = s.registry.size ∧ s.registry.size = (successes s.answers).toFinset.card ∧
      s.registry.keys = built ∧ built.Nodup ∧
      List.Forall₂ (fun key line => ∃ d, (declared key).describe = .ok d ∧ line = d.summary) built s.registry.log ∧
      (∀ key e, s.registry.lookup key = some e →
        (declared key).describe = .ok e.descriptor ∧ (s.run declared later).registry.lookup key = some e ∧
          ∀ key' e', s.registry.lookup key' = some e' → e'.serial = e.serial → key' = key) ∧
      (∀ a ∈ s.answers, match (declared a.key).describe with
        | .ok d => ∃ e, a.result = .ok e ∧ e.descriptor = d ∧ s.registry.lookup a.key = some e
        | .error cause => a.result = .error cause) ∧
      (∀ thread key others, s.missed thread = none → (∀ x ∈ others, x.thread ≠ thread) → ∃ result,
        ⟨thread, key, result⟩ ∈ (s.run declared (.look thread key :: others ++ [.enrol thread])).answers) ∧
      ∀ x key cause, s.typeOf x = some key → (declared key).describe = .error cause →
        (s.take declared x).registry = s.registry := by
  intro s built
  have hs : Kept declared s := kept_start.run sections
  have hkeys : s.registry.keys = built := keys_run sections {}
  refine ⟨hs.sound.built, hs.size_eq, hkeys, hkeys ▸ hs.sound.distinct, ?_, fun key e he => ?_, fun a ha => hs.answer ha,
    fun thread key others h ho => call_answered h key ho, fun x key cause hx hd => registry_take_of_malformed hx hd⟩
  · rw [← hkeys, hs.sound.log, Registry.keys, List.forall₂_map_left_iff, List.forall₂_map_right_iff, List.forall₂_same]
    exact fun x hx => ⟨x.2.descriptor, hs.sound.described x hx, rfl⟩
  · exact ⟨hs.sound.describe_eq he, lookup_run later he, fun key' e' he' hserial => hs.sound.serial_inj he' he hserial⟩

/-- A type with a field, and without one any other. -/
def accounts (key : TypeKey) : Declaration :=
  ⟨key, none, if key = "Account" then [⟨"id", .integer, none, false, false⟩] else []⟩

/-- Two threads miss the same type before either describes it; a third fails in between. -/
def accountSections : List (Section Nat) :=
  [.look 0 "Account", .look 1 "Account", .look 2 "Void", .enrol 1, .enrol 2, .enrol 0]

theorem described_once_accounts :
    let s := ({} : Shared Nat).run accounts accountSections
    s.answers.map (·.thread) = [1, 2, 0] ∧ s.registry.built = 1 ∧ s.registry.log.length = 1 ∧
      (∃ e, s.registry.lookup "Account" = some e ∧ ⟨0, "Account", .ok e⟩ ∈ s.answers ∧
        ⟨1, "Account", .ok e⟩ ∈ s.answers ∧
        (s.run accounts [.look 2 "Account"]).registry.lookup "Account" = some e) ∧
      ∃ cause, ⟨2, "Void", .error cause⟩ ∈ s.answers ∧ (s.take accounts (.look 2 "Void")).registry = s.registry := by
  intro s
  obtain ⟨hbuilt, -, hkeys, -, hlog, hcached, -, -, hmalformed⟩ :=
    described_once accounts accountSections [.look 2 "Account"]
  have hsize : s.registry.size = 1 := by decide
  have hline : s.registry.log.length = 1 := by rw [← hlog.length_eq, ← hkeys]; decide
  have he : s.registry.lookup "Account" =
      some ⟨0, ⟨"Account", "accounts", [⟨0, "id", "id", .integer, false, true⟩], some 0, [("id", 0)]⟩⟩ := by decide
  exact ⟨by decide, hbuilt.trans hsize, hline, ⟨_, he, by decide, by decide, (hcached _ _ he).2.1⟩, .noFields "Void",
    by decide, hmalformed (.look 2 "Void") "Void" (.noFields "Void") rfl rfl⟩

end EntityQuery.Schema
