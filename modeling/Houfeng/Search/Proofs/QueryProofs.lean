import Houfeng.Foundation.Fallible
import Houfeng.Search.Query
import Mathlib.Data.List.Sort

/-!
# Search query identity

The normalized filters are the sorted lists of their sets, and the canonical bytes are delimited
field by field, so two questions have the same bytes exactly when they ask the same.
-/

namespace Houfeng.Search

open Center Records List Option

/-! ## Text -/

variable {c : Char} {value folded : String}

section

variable {u : Unicode}

theorem isSpace_space : isSpace ' ' = true := by decide

/-- What has been built folds to itself, and a pending space follows a character. -/
def Folded (state : List Char × Bool) : Prop :=
  state.1.foldlM foldCharacter ([], false) = some (state.1, false) ∧ (state.2 = true → state.1 ≠ [])

variable {state state' : List Char × Bool}

theorem Folded.step (h : Folded state) (hc : foldCharacter state c = some state') :
    Folded state' := by
  obtain ⟨built, pending⟩ := state
  obtain ⟨hbuilt, hpending⟩ := h
  rw [foldCharacter] at hc
  by_cases hspace : isSpace c = true
  · rw [if_pos hspace] at hc
    cases hc
    exact ⟨hbuilt, by simp⟩
  · rw [if_neg hspace] at hc
    by_cases hbad : c = '�' ∨ isControl c = true
    · rw [if_pos hbad] at hc
      cases hc
    · rw [if_neg hbad] at hc
      cases hc
      have hchar : ∀ state : List Char × Bool, foldCharacter state c =
          some (if state.2 then state.1 ++ [' ', c] else state.1 ++ [c], false) := by
        intro state
        rw [foldCharacter, if_neg hspace, if_neg hbad]
      cases pending with
      | false =>
        refine ⟨?_, nofun⟩
        simp only [Bool.false_eq_true, reduceIte, foldlM_append, hbuilt]
        simp [hchar]
      | true =>
        refine ⟨?_, nofun⟩
        have hnonempty := hpending rfl
        simp only [reduceIte, foldlM_append, hbuilt]
        simp [foldCharacter, isSpace_space, hspace, hbad, hnonempty]

theorem Folded.foldlM {cs : List Char} (h : Folded state)
    (hcs : cs.foldlM foldCharacter state = some state') : Folded state' := by
  induction cs generalizing state with
  | nil =>
    cases hcs
    exact h
  | cons c cs ih =>
    rw [foldlM_cons] at hcs
    obtain ⟨next, hnext, hrest⟩ := bind_eq_some_iff.mp hcs
    exact ih (h.step hnext) hrest

end

/-! ## Filter values -/

def Short {α : Type} (P : α → Prop) (l : List α) : Prop := l.length < 256 ^ 4 ∧ ∀ a ∈ l, P a

section

variable {α : Type} [DecidableEq α] {check : α → Except InvalidQuery Unit} {field : String}
  {key : α → String} {values values' result result' : List α}

theorem collectValues_ok {seen : List α} : collectValues check field seen values = .ok result ↔
    (∀ v ∈ values, check v = .ok ()) ∧ (∀ v ∈ values, v ∉ seen) ∧ values.Nodup ∧
      result = seen ++ values := by
  induction values generalizing seen with
  | nil => simp [collectValues, eq_comm]
  | cons value values ih =>
    rw [collectValues]
    cases hcheck : check value with
    | error e => simp [hcheck, bind, Except.bind]
    | ok _ =>
      have hbind : ∀ x : Except InvalidQuery (List α),
          ((Except.ok () : Except InvalidQuery Unit) >>= fun _ => x) = x := fun _ => rfl
      rw [hbind]
      by_cases hseen : value ∈ seen
      · simp [hseen]
      · rw [if_neg hseen, ih]
        simp only [mem_cons, forall_eq_or_imp, hcheck, mem_append, nodup_cons,
          append_assoc, cons_append, nil_append, not_or, true_and, hseen,
          not_false_eq_true, not_mem_nil, or_false]
        constructor
        · rintro ⟨hc, hs, hn, hr⟩
          exact ⟨hc, fun v hv => (hs v hv).1, ⟨fun hmem => (hs value hmem).2 rfl, hn⟩, hr⟩
        · rintro ⟨hc, hs, ⟨hnot, hn⟩, hr⟩
          exact ⟨hc, fun v hv => ⟨hs v hv, fun heq => hnot (heq ▸ hv)⟩, hn, hr⟩

theorem normalizeValues_ok : normalizeValues field check key values = .ok result ↔
    values.length ≤ maxQueryFilterValues ∧ (∀ v ∈ values, check v = .ok ()) ∧ values.Nodup ∧
      result = values.mergeSort fun a b => key a ≤ key b := by
  rw [normalizeValues]
  by_cases hempty : values = []
  · subst hempty
    simp [eq_comm]
  · rw [if_neg hempty]
    by_cases hlength : values.length > maxQueryFilterValues
    · rw [if_pos hlength]
      simp only [reduceCtorEq, false_iff, not_and]
      omega
    · rw [if_neg hlength]
      constructor
      · intro h
        obtain ⟨normalized, hcollect, hsort⟩ := except_bind_eq_ok h
        obtain ⟨hcheck, -, hnodup, rfl⟩ := collectValues_ok.mp hcollect
        cases hsort
        exact ⟨by omega, hcheck, hnodup, by simp⟩
      · rintro ⟨-, hcheck, hnodup, rfl⟩
        rw [collectValues_ok.mpr ⟨hcheck, by simp, hnodup, rfl⟩]
        simp [bind, Except.bind]

omit [DecidableEq α] in
theorem sort_sorted (values : List α) :
    (values.mergeSort fun a b => key a ≤ key b).Pairwise fun a b => key a ≤ key b := by
  refine (@pairwise_mergeSort α (fun a b => decide (key a ≤ key b)) ?_ ?_ values).imp ?_
  · intro a b c hab hbc
    exact decide_eq_true ((of_decide_eq_true hab).trans (of_decide_eq_true hbc))
  · intro a b
    simpa using le_total (key a) (key b)
  · intro a b hab
    exact of_decide_eq_true hab

omit [DecidableEq α] in
theorem sort_eq_iff (hkey : ∀ a ∈ values, ∀ b ∈ values', key a = key b → a = b)
    (hnodup : values.Nodup) (hnodup' : values'.Nodup) :
    (values.mergeSort (fun a b => key a ≤ key b)) =
      (values'.mergeSort fun a b => key a ≤ key b) ↔ ∀ a, a ∈ values ↔ a ∈ values' := by
  constructor
  · intro h a
    have hperm := mergeSort_perm values fun a b => decide (key a ≤ key b)
    rw [← hperm.mem_iff, h, mem_mergeSort]
  · intro h
    have hperm : values.Perm values' := (perm_ext_iff_of_nodup hnodup hnodup').mpr h
    have hsorted := (mergeSort_perm values fun a b => decide (key a ≤ key b)).trans
      (hperm.trans (mergeSort_perm values' fun a b => decide (key a ≤ key b)).symm)
    refine hsorted.eq_of_pairwise ?_ (sort_sorted values) (sort_sorted values')
    intro a b ha hb hab hba
    exact hkey a (mem_mergeSort.mp ha) b (mem_mergeSort.mp hb) (le_antisymm hab hba)

theorem normalizeValues_eq_iff (hkey : ∀ a b, check a = .ok () → check b = .ok () → key a = key b →
      a = b) (h : normalizeValues field check key values = .ok result)
    (h' : normalizeValues field check key values' = .ok result') :
    result = result' ↔ ∀ a, a ∈ values ↔ a ∈ values' := by
  obtain ⟨-, hcheck, hnodup, rfl⟩ := Iff.mp normalizeValues_ok h
  obtain ⟨-, hcheck', hnodup', rfl⟩ := Iff.mp normalizeValues_ok h'
  exact sort_eq_iff (fun a ha b hb => hkey a b (hcheck a ha) (hcheck' b hb)) hnodup hnodup'

theorem normalizeValues_perm (hkey : ∀ a b, check a = .ok () → check b = .ok () → key a = key b → a = b)
    (hperm : values'.Perm values) (h : normalizeValues field check key values = .ok result) :
    normalizeValues field check key values' = .ok result := by
  obtain ⟨hlength, hcheck, hnodup, rfl⟩ := Iff.mp normalizeValues_ok h
  have hcheck' : ∀ a ∈ values', check a = .ok () := fun a ha => hcheck a (hperm.mem_iff.mp ha)
  have hnodup' : values'.Nodup := hperm.nodup_iff.mpr hnodup
  refine Iff.mpr normalizeValues_ok ⟨by rwa [hperm.length_eq], hcheck', hnodup', ?_⟩
  refine (sort_eq_iff (fun a ha b hb => hkey a b (hcheck a ha) (hcheck' b hb)) hnodup hnodup').mpr ?_
  exact fun a => hperm.mem_iff.symm

variable (h : normalizeValues field check key values = .ok result)
include h

theorem normalizeValues_nodup : values.Nodup := (Iff.mp normalizeValues_ok h).2.2.1

theorem mem_normalizeValues {a : α} : a ∈ result ↔ a ∈ values := by
  obtain ⟨-, -, -, rfl⟩ := Iff.mp normalizeValues_ok h
  exact mem_mergeSort

theorem normalizeValues_idem : normalizeValues field check key result = .ok result := by
  obtain ⟨hlength, hcheck, hnodup, rfl⟩ := Iff.mp normalizeValues_ok h
  have hperm := mergeSort_perm values fun a b => decide (key a ≤ key b)
  refine Iff.mpr normalizeValues_ok
    ⟨by rwa [hperm.length_eq], fun v hv => ?_, hperm.nodup_iff.mpr hnodup, ?_⟩
  · exact hcheck v (mem_mergeSort.mp hv)
  · refine (mergeSort_of_pairwise ?_).symm
    exact (sort_sorted values).imp fun hab => decide_eq_true hab

theorem normalizeValues_short {P : α → Prop} (hP : ∀ a, check a = .ok () → P a) :
    Short P result := by
  obtain ⟨hlength, hcheck, -, -⟩ := Iff.mp normalizeValues_ok (normalizeValues_idem h)
  exact ⟨Nat.lt_of_le_of_lt hlength (by decide), fun a ha => hP a (hcheck a ha)⟩

end

/-! ## Subjects -/

theorem append_separator_inj {a a' b b' : List Char} (ha : c ∉ a) (ha' : c ∉ a')
    (h : a ++ c :: b = a' ++ c :: b') : a = a' ∧ b = b' := by
  induction a generalizing a' with
  | nil =>
    cases a' with
    | nil => simpa using h
    | cons x a' =>
      simp only [nil_append, cons_append, cons.injEq] at h
      obtain ⟨rfl, -⟩ := h
      exact absurd mem_cons_self ha'
  | cons x a ih =>
    cases a' with
    | nil =>
      simp only [nil_append, cons_append, cons.injEq] at h
      obtain ⟨rfl, -⟩ := h
      exact absurd mem_cons_self ha
    | cons y a' =>
      simp only [cons_append, cons.injEq, mem_cons, not_or] at h ha ha'
      obtain ⟨rfl, rfl⟩ := ih ha.2 ha'.2 h.2
      exact ⟨by rw [h.1], rfl⟩

variable {tag field : String} {digits : Nat}

theorem hexIdentity_iff :
    hexIdentity tag digits value = true ↔ ∃ hex : List Char, hex.length = digits ∧
      (∀ c ∈ hex, isLowerHex c = true) ∧ value.toList = tag.toList ++ hex := by
  simp only [hexIdentity, Bool.and_eq_true, decide_eq_true_eq, isPrefixOf_iff_prefix,
    List.all_eq_true]
  constructor
  · rintro ⟨⟨hlength, hex, hvalue⟩, hhex⟩
    rw [← hvalue] at hlength hhex
    rw [length_append, String.length_toList] at hlength
    rw [← String.length_toList, drop_left] at hhex
    exact ⟨hex, by omega, hhex, hvalue.symm⟩
  · rintro ⟨hex, rfl, hhex, hvalue⟩
    rw [hvalue, ← String.length_toList, drop_left]
    exact ⟨⟨by simp, prefix_append _ _⟩, hhex⟩

theorem isLowerHex_ne_zero (h : isLowerHex c = true) : c ≠ '\x00' := by
  rintro rfl
  exact absurd h (by decide)

/-- No field of a valid filter has a separator in it, and every field is short. -/
structure SubjectFilter.Plain (filter : SubjectFilter) : Prop where
  kind : '\x00' ∉ filter.kind.toList
  role : '\x00' ∉ filter.role.toList
  sourceID : '\x00' ∉ filter.sourceID.toList
  lengths : filter.kind.length ≤ 256 ∧ filter.role.length ≤ 256 ∧ filter.sourceID.length ≤ 256 ∧
    filter.placement.length ≤ 256

theorem hexIdentity_plain (h : hexIdentity tag digits value = true) (htag : '\x00' ∉ tag.toList)
    (hlength : tag.length + digits ≤ 256) : '\x00' ∉ value.toList ∧ value.length ≤ 256 := by
  obtain ⟨hex, rfl, hhex, hvalue⟩ := hexIdentity_iff.mp h
  refine ⟨?_, ?_⟩
  · rw [hvalue, mem_append, not_or]
    exact ⟨htag, fun hmem => isLowerHex_ne_zero (hhex _ hmem) rfl⟩
  · rw [← String.length_toList, hvalue, length_append, String.length_toList]
    exact hlength

theorem validSubjectSourceID_plain {kind : String} (h : validSubjectSourceID kind value = true) :
    '\x00' ∉ value.toList ∧ value.length ≤ 256 := by
  unfold validSubjectSourceID at h
  split at h
  · exact hexIdentity_plain h (by decide) (by decide)
  · exact hexIdentity_plain h (by decide) (by decide)
  · exact hexIdentity_plain h (by decide) (by decide)
  · cases h

theorem checkSubject_plain {filter : SubjectFilter} (h : checkSubject filter = .ok ()) :
    filter.Plain := by
  rw [checkSubject] at h
  obtain ⟨hkind, h⟩ := except_guard_eq_ok h
  obtain ⟨hrole, h⟩ := except_guard_eq_ok h
  obtain ⟨hsource, h⟩ := except_guard_eq_ok h
  obtain ⟨hplacement, -⟩ := except_guard_eq_ok h
  have hk : '\x00' ∉ filter.kind.toList ∧ filter.kind.length ≤ 256 := by
    simp only [validSubjectKind, Bool.not_eq_false, decide_eq_true_eq] at hkind
    generalize filter.kind = kind at hkind
    revert kind
    decide
  have hr : '\x00' ∉ filter.role.toList ∧ filter.role.length ≤ 256 := by
    have hmem : filter.role ∈ ["", "affected", "context", "evidence_source"] := by
      by_cases hempty : filter.role = ""
      · simp [hempty]
      · have hvalid : validRelationRole filter.role = true := by
          simpa using fun hr => hrole ⟨hempty, hr⟩
        simp only [validRelationRole, decide_eq_true_eq] at hvalid
        exact mem_cons_of_mem _ hvalid
    generalize filter.role = role at hmem
    revert role
    decide
  have hs : '\x00' ∉ filter.sourceID.toList ∧ filter.sourceID.length ≤ 256 := by
    by_cases hempty : filter.sourceID = ""
    · rw [hempty]
      decide
    · have hvalid : validSubjectSourceID filter.kind filter.sourceID = true := by
        simpa using fun hv => hsource ⟨hempty, hv⟩
      exact validSubjectSourceID_plain hvalid
  have hp : filter.placement.length ≤ 256 := by
    simp only [validSubjectPlacement, Bool.not_eq_false, decide_eq_true_eq] at hplacement
    generalize filter.placement = placement at hplacement
    revert placement
    decide
  exact ⟨hk.1, hr.1, hs.1, hk.2, hr.2, hs.2, hp⟩

theorem subjectFilterOrder_injective {a b : SubjectFilter} (ha : a.Plain) (hb : b.Plain)
    (h : subjectFilterOrder a = subjectFilterOrder b) : a = b := by
  have hjoin : ∀ f : SubjectFilter, (subjectFilterOrder f).toList = f.kind.toList ++
      '\x00' :: (f.role.toList ++ '\x00' :: (f.sourceID.toList ++ '\x00' :: f.placement.toList)) := by
    intro f
    simp [subjectFilterOrder]
  have hlist := congrArg String.toList h
  rw [hjoin, hjoin] at hlist
  obtain ⟨hkind, hlist⟩ := append_separator_inj ha.kind hb.kind hlist
  obtain ⟨hrole, hlist⟩ := append_separator_inj ha.role hb.role hlist
  obtain ⟨hsource, hplacement⟩ := append_separator_inj ha.sourceID hb.sourceID hlist
  cases a
  cases b
  simp_all [String.toList_inj]

/-! ## Times -/

/-- The time is one that `UnixMicro` can represent. -/
def Time.InRange (t : Time) : Prop := -2 ^ 63 ≤ t.instant / 1000 ∧ t.instant / 1000 < 2 ^ 63

variable {t : Time}

theorem Time.truncated_eq_iff {t' : Time} :
    t.truncated = t'.truncated ↔ t.instant / 1000 = t'.instant / 1000 := by
  simp only [Time.truncated, Time.mk.injEq, and_true]
  omega

theorem Time.truncated_truncated (t : Time) : t.truncated.truncated = t.truncated := by
  simp only [Time.truncated, Time.mk.injEq, and_true]
  omega

def Time.Stored (t : Time) : Prop := t.InRange ∧ t.truncated = t

theorem Time.InRange.truncated (h : t.InRange) : t.truncated.Stored := by
  refine ⟨?_, t.truncated_truncated⟩
  obtain ⟨hlow, hhigh⟩ := h
  simp only [Time.InRange, Time.truncated]
  omega

theorem encodeTime_delimited : Framing.Delimited Time.Stored encodeTime := by
  intro t t' ht ht' u v h
  have hlt : ∀ t : Time, t.unixMicro < 256 ^ 8 := by
    intro t
    simp only [Time.unixMicro]
    omega
  obtain ⟨hmicro, hrest⟩ := Framing.bigEndian_delimited 8 _ _ (hlt t) (hlt t') u v h
  refine ⟨?_, hrest⟩
  rw [← ht.2, ← ht'.2, Time.truncated_eq_iff]
  obtain ⟨hlow, hhigh⟩ := ht.1
  obtain ⟨hlow', hhigh'⟩ := ht'.1
  simp only [Time.unixMicro] at hmicro
  omega

def TimeRange.InRange (r : TimeRange) : Prop :=
  (∀ t ∈ r.start, t.InRange) ∧ ∀ t ∈ r.stop, t.InRange

def TimeRange.micros (r : TimeRange) : Option Int × Option Int :=
  (r.start.map (·.instant / 1000), r.stop.map (·.instant / 1000))

variable {o o' : Option Time}

theorem normalizeRangeBound_ok :
    normalizeRangeBound field o = .ok o' ↔
      (∀ t ∈ o, t.instant ≠ zeroInstant) ∧ o' = o.map Time.truncated := by
  cases o with
  | none => simp [normalizeRangeBound, eq_comm]
  | some t =>
    by_cases hzero : t.instant = zeroInstant
    · simp [normalizeRangeBound, hzero]
    · rw [normalizeRangeBound, if_neg hzero, Except.ok.injEq, eq_comm]
      simp [hzero]

variable {r r' : TimeRange}

theorem normalizeTimeRange_ok :
    normalizeTimeRange field r = .ok r' ↔
      ((∀ t ∈ r.start, t.instant ≠ zeroInstant) ∧ ∀ t ∈ r.stop, t.instant ≠ zeroInstant) ∧
      (∀ a ∈ r.start, ∀ b ∈ r.stop, a.instant / 1000 < b.instant / 1000) ∧
      r' = ⟨r.start.map Time.truncated, r.stop.map Time.truncated⟩ := by
  have hlt : ∀ a b : Time, a.truncated.instant < b.truncated.instant ↔
      a.instant / 1000 < b.instant / 1000 := by
    intro a b
    simp only [Time.truncated]
    omega
  constructor
  · intro h
    obtain ⟨start, hstart, h⟩ := except_bind_eq_ok h
    obtain ⟨stop, hstop, h⟩ := except_bind_eq_ok h
    obtain ⟨hzero, rfl⟩ := normalizeRangeBound_ok.mp hstart
    obtain ⟨hzero', rfl⟩ := normalizeRangeBound_ok.mp hstop
    refine ⟨⟨hzero, hzero'⟩, ?_⟩
    cases hs : r.start with
    | none =>
      rw [hs] at h
      cases h
      simp
    | some a =>
      cases ht : r.stop with
      | none =>
        rw [hs, ht] at h
        cases h
        simp
      | some b =>
        simp only [hs, ht, map_some, hlt] at h
        by_cases hab : a.instant / 1000 < b.instant / 1000
        · rw [if_pos hab] at h
          cases h
          simpa using hab
        · rw [if_neg hab] at h
          cases h
  · rintro ⟨⟨hzero, hzero'⟩, horder, rfl⟩
    rw [normalizeTimeRange, normalizeRangeBound_ok.mpr ⟨hzero, rfl⟩,
      normalizeRangeBound_ok.mpr ⟨hzero', rfl⟩]
    cases hs : r.start with
    | none => rfl
    | some a =>
      cases ht : r.stop with
      | none => rfl
      | some b =>
        have hab := (hlt a b).mpr (horder a (by simp [hs]) b (by simp [ht]))
        simp [bind, Except.bind, hab]

theorem map_truncated_eq_iff :
    o.map Time.truncated = o'.map Time.truncated ↔
      o.map (·.instant / 1000) = o'.map (·.instant / 1000) := by
  cases o <;> cases o' <;> simp [Time.truncated_eq_iff]

variable {s : TimeRange}

theorem normalizeTimeRange_eq_iff {s' : TimeRange}
    (h : normalizeTimeRange field r = .ok s) (h' : normalizeTimeRange field r' = .ok s') :
    s = s' ↔ r.micros = r'.micros := by
  obtain ⟨-, -, rfl⟩ := normalizeTimeRange_ok.mp h
  obtain ⟨-, -, rfl⟩ := normalizeTimeRange_ok.mp h'
  simp only [TimeRange.mk.injEq, TimeRange.micros, Prod.mk.injEq, map_truncated_eq_iff]

def TimeRange.Nonzero (r : TimeRange) : Prop :=
  (∀ t ∈ r.start, t.instant / 1000 ≠ zeroInstant / 1000) ∧
    ∀ t ∈ r.stop, t.instant / 1000 ≠ zeroInstant / 1000

theorem normalizeTimeRange_idem (h : normalizeTimeRange field r = .ok s) (hnonzero : r.Nonzero) :
    normalizeTimeRange field s = .ok s := by
  obtain ⟨-, horder, rfl⟩ := normalizeTimeRange_ok.mp h
  have hcut : ∀ t : Time, t.truncated.instant / 1000 = t.instant / 1000 := by
    intro t
    simp only [Time.truncated]
    omega
  have hzero : ∀ o : Option Time, (∀ t ∈ o, t.instant / 1000 ≠ zeroInstant / 1000) →
      ∀ t ∈ o.map Time.truncated, t.instant ≠ zeroInstant := by
    rintro o ho t ht heq
    obtain ⟨t', ht', rfl⟩ := Option.mem_map.mp ht
    exact ho t' ht' (by rw [← hcut, heq])
  refine normalizeTimeRange_ok.mpr ⟨⟨hzero _ hnonzero.1, hzero _ hnonzero.2⟩, ?_, ?_⟩
  · rintro a ha b hb
    obtain ⟨a', ha', rfl⟩ := Option.mem_map.mp ha
    obtain ⟨b', hb', rfl⟩ := Option.mem_map.mp hb
    rw [hcut, hcut]
    exact horder a' ha' b' hb'
  · simp [Function.comp_def, Time.truncated_truncated]

theorem normalizeTimeRange_stored (h : normalizeTimeRange field r = .ok s) (hrange : r.InRange) :
    (∀ t ∈ s.start, t.Stored) ∧ ∀ t ∈ s.stop, t.Stored := by
  obtain ⟨-, -, rfl⟩ := normalizeTimeRange_ok.mp h
  refine ⟨fun t ht => ?_, fun t ht => ?_⟩
  · obtain ⟨t', ht', rfl⟩ := Option.mem_map.mp ht
    exact (hrange.1 t' ht').truncated
  · obtain ⟨t', ht', rfl⟩ := Option.mem_map.mp ht
    exact (hrange.2 t' ht').truncated

/-! ## Tags -/

/-- What is assumed of the tables: NFC text stays so when its white space is cut down, and lower
case is reached at once and does not change what is white space. -/
structure Unicode.Lawful (u : Unicode) : Prop where
  nfc_nfc : ∀ s, u.nfc (u.nfc s) = u.nfc s
  nfc_spaces : ∀ s state, u.nfc s = s → s.toList.foldlM foldCharacter ([], false) = some state →
    u.nfc (String.ofList state.1) = String.ofList state.1
  toLower_toLower : ∀ c, u.toLower (u.toLower c) = u.toLower c
  isSpace_toLower : ∀ c, isSpace (u.toLower c) = isSpace c

variable {text : String}

section

variable {u : Unicode}

theorem Unicode.Lawful.foldSearchText (h : u.Lawful) (hfold : foldSearchText u value = some folded) :
    foldSearchText u folded = some folded := by
  rw [Search.foldSearchText] at hfold
  by_cases hempty : value = ""
  · rw [if_pos hempty] at hfold
    cases hfold
    rfl
  · rw [if_neg hempty] at hfold
    obtain ⟨state, hstate, rfl⟩ := map_eq_some_iff.mp hfold
    have hfolded : Folded state := Folded.foldlM ⟨rfl, by simp⟩ hstate
    rw [Search.foldSearchText]
    split_ifs with hnone
    · rw [hnone]
    · rw [h.nfc_spaces _ state (h.nfc_nfc value) hstate, String.toList_ofList, hfolded.1]
      rfl

theorem normalizeQueryText_ok : normalizeQueryText u value = .ok text ↔
    foldSearchText u value = some text ∧ text.length ≤ maxQueryTextRunes := by
  rw [normalizeQueryText]
  cases foldSearchText u value with
  | none => simp
  | some folded =>
    dsimp only
    by_cases hlength : folded.length > maxQueryTextRunes
    · rw [if_pos hlength]
      simp only [reduceCtorEq, some.injEq, false_iff, not_and]
      rintro rfl
      omega
    · rw [if_neg hlength, Except.ok.injEq, some.injEq]
      refine (and_iff_left_of_imp ?_).symm
      rintro rfl
      omega

theorem normalizeQueryText_idem (h : u.Lawful) (hn : normalizeQueryText u value = .ok text) :
    normalizeQueryText u text = .ok text := by
  obtain ⟨hfold, hlength⟩ := normalizeQueryText_ok.mp hn
  exact normalizeQueryText_ok.mpr ⟨h.foldSearchText hfold, hlength⟩

theorem normalizeQueryText_eq_iff {value' text' : String}
    (h : normalizeQueryText u value = .ok text) (h' : normalizeQueryText u value' = .ok text') :
    text = text' ↔ foldSearchText u value = foldSearchText u value' := by
  rw [(normalizeQueryText_ok.mp h).1, (normalizeQueryText_ok.mp h').1, some.injEq]

theorem dropWhile_prefix {p : Char → Bool} {m l : List Char} (h : m <+: l.dropWhile p) :
    m.dropWhile p = m := by
  cases m with
  | nil => rfl
  | cons c m =>
    obtain ⟨rest, hrest⟩ := h
    have hhead := head?_dropWhile_not p l
    rw [← hrest] at hhead
    have hc : p c = false := by simpa using hhead
    simp [hc]

theorem foldTag_foldTag (h : u.Lawful) (value : String) :
    foldTag u (foldTag u value) = foldTag u value := by
  have hspace : isSpace ∘ u.toLower = isSpace := funext h.isSpace_toLower
  -- the trimmed text keeps its ends
  have htrim : ∀ l : List Char,
      ((l.dropWhile isSpace).reverse.dropWhile isSpace).reverse.dropWhile isSpace =
        ((l.dropWhile isSpace).reverse.dropWhile isSpace).reverse := by
    intro l
    refine dropWhile_prefix (l := l) ?_
    rw [← reverse_suffix, reverse_reverse]
    exact dropWhile_suffix _
  have hagain : ∀ l : List Char, (l.dropWhile isSpace).dropWhile isSpace = l.dropWhile isSpace :=
    fun l => dropWhile_prefix prefix_rfl
  have hlower : u.toLower ∘ u.toLower = u.toLower := funext h.toLower_toLower
  simp only [foldTag, trimSpace, String.toList_ofList, dropWhile_map, hspace, htrim,
    ← map_reverse, reverse_reverse, List.map_map, hagain, hlower]

end

/-! ## Queries -/

attribute [ext] TimeRange QueryValues

def QueryValues.sortOrder (v : QueryValues) : String :=
  if v.sort = "" then "updated_at_desc" else v.sort

def QueryValues.pageLimit (v : QueryValues) : Nat :=
  if v.pageSize = 0 then defaultPageSize else v.pageSize

/-- The normalized values `n` of the question `v`. -/
structure Normalizes (u : Unicode) (v n : QueryValues) : Prop where
  text : normalizeQueryText u v.text = .ok n.text
  types : normalizeFilterValues "record type" validRecordType v.types = .ok n.types
  statuses : normalizeFilterValues "business status" validBusinessStatus v.statuses = .ok n.statuses
  statusGroups : normalizeFilterValues "status group" validStatusGroup v.statusGroups =
    .ok n.statusGroups
  lifecycles : normalizeFilterValues "lifecycle" validLifecycle v.lifecycles = .ok n.lifecycles
  subjects : normalizeSubjectFilters v.subjects = .ok n.subjects
  ownerIDs : normalizeFilterValues "owner id" validUserID v.ownerIDs = .ok n.ownerIDs
  participantIDs : normalizeFilterValues "participant id" validUserID v.participantIDs =
    .ok n.participantIDs
  tags : normalizeTags u v.tags = .ok n.tags
  followUp : validFollowUpState v.followUp = true ∧ n.followUp = v.followUp
  action : validActionState v.action = true ∧ n.action = v.action
  occurred : normalizeTimeRange "occurred range" v.occurred = .ok n.occurred
  updated : normalizeTimeRange "updated range" v.updated = .ok n.updated
  sort : validSort v.sortOrder = true ∧ n.sort = v.sortOrder
  pageSize : v.pageLimit ≤ maxPageSize ∧ n.pageSize = v.pageLimit

theorem normalizeQuery_ok {u : Unicode} {v : QueryValues} {q : Query} :
    normalizeQuery u v = .ok q ↔
      Normalizes u v q.values ∧ q.canonicalBytes = canonicalQueryBytes q.values := by
  constructor
  · intro h
    obtain ⟨text, htext, h⟩ := except_bind_eq_ok h
    obtain ⟨types, htypes, h⟩ := except_bind_eq_ok h
    obtain ⟨statuses, hstatuses, h⟩ := except_bind_eq_ok h
    obtain ⟨statusGroups, hgroups, h⟩ := except_bind_eq_ok h
    obtain ⟨lifecycles, hlifecycles, h⟩ := except_bind_eq_ok h
    obtain ⟨subjects, hsubjects, h⟩ := except_bind_eq_ok h
    obtain ⟨ownerIDs, howners, h⟩ := except_bind_eq_ok h
    obtain ⟨participantIDs, hparticipants, h⟩ := except_bind_eq_ok h
    obtain ⟨tags, htags, h⟩ := except_bind_eq_ok h
    obtain ⟨hfollowUp, h⟩ := except_guard_eq_ok h
    obtain ⟨haction, h⟩ := except_guard_eq_ok h
    obtain ⟨occurred, hoccurred, h⟩ := except_bind_eq_ok h
    obtain ⟨updated, hupdated, h⟩ := except_bind_eq_ok h
    obtain ⟨hsort, h⟩ := except_guard_eq_ok h
    obtain ⟨hpage, h⟩ := except_guard_eq_ok h
    cases h
    exact ⟨⟨htext, htypes, hstatuses, hgroups, hlifecycles, hsubjects, howners, hparticipants, htags,
      ⟨by simpa using hfollowUp, rfl⟩, ⟨by simpa using haction, rfl⟩, hoccurred, hupdated,
      ⟨by simpa [QueryValues.sortOrder] using hsort, rfl⟩, Nat.le_of_not_lt hpage, rfl⟩, rfl⟩
  · rintro ⟨h, hbytes⟩
    obtain ⟨values, bytes⟩ := q
    simp only at h hbytes
    have hpage : ¬ v.pageLimit > maxPageSize := Nat.not_lt.mpr h.pageSize.1
    have hsort := h.sort.1
    simp only [QueryValues.sortOrder, QueryValues.pageLimit] at hpage hsort
    simp only [normalizeQuery, h.text, h.types, h.statuses, h.statusGroups, h.lifecycles, h.subjects,
      h.ownerIDs, h.participantIDs, h.tags, h.followUp.1, h.action.1, h.occurred, h.updated, hsort,
      hpage, bind, Except.bind, Bool.true_eq_false, reduceIte]
    have hvalues : values = { values with
        followUp := v.followUp, action := v.action, sort := v.sortOrder, pageSize := v.pageLimit } := by
      rw [← h.followUp.2, ← h.action.2, ← h.sort.2, ← h.pageSize.2]
    rw [hbytes, hvalues]
    rfl

/-- The two questions ask the same: the text is the same when folded, the filters are the same sets,
and the bounds are the same microseconds. -/
@[mk_iff]
structure SameQuestion (u : Unicode) (v v' : QueryValues) : Prop where
  text : foldSearchText u v.text = foldSearchText u v'.text
  types : ∀ x, x ∈ v.types ↔ x ∈ v'.types
  statuses : ∀ x, x ∈ v.statuses ↔ x ∈ v'.statuses
  statusGroups : ∀ x, x ∈ v.statusGroups ↔ x ∈ v'.statusGroups
  lifecycles : ∀ x, x ∈ v.lifecycles ↔ x ∈ v'.lifecycles
  subjects : ∀ x, x ∈ v.subjects ↔ x ∈ v'.subjects
  ownerIDs : ∀ x, x ∈ v.ownerIDs ↔ x ∈ v'.ownerIDs
  participantIDs : ∀ x, x ∈ v.participantIDs ↔ x ∈ v'.participantIDs
  tags : ∀ x, x ∈ v.tags.map (foldTag u) ↔ x ∈ v'.tags.map (foldTag u)
  followUp : v.followUp = v'.followUp
  action : v.action = v'.action
  occurred : v.occurred.micros = v'.occurred.micros
  updated : v.updated.micros = v'.updated.micros
  sort : v.sortOrder = v'.sortOrder
  pageSize : v.pageLimit = v'.pageLimit

section

variable {u : Unicode} {v v' n n' : QueryValues} {valid : String → Bool}

theorem normalizeFilterValues_eq_iff {values values' result result' : List String}
    (h : normalizeFilterValues field valid values = .ok result)
    (h' : normalizeFilterValues field valid values' = .ok result') :
    result = result' ↔ ∀ x, x ∈ values ↔ x ∈ values' :=
  normalizeValues_eq_iff (fun _ _ _ _ hid => hid) h h'

theorem Normalizes.eq_iff (h : Normalizes u v n) (h' : Normalizes u v' n') :
    n = n' ↔ SameQuestion u v v' := by
  have hsubjects := normalizeValues_eq_iff (fun a b ha hb =>
    subjectFilterOrder_injective (checkSubject_plain ha) (checkSubject_plain hb)) h.subjects h'.subjects
  rw [QueryValues.ext_iff, sameQuestion_iff, normalizeQueryText_eq_iff h.text h'.text,
    normalizeFilterValues_eq_iff h.types h'.types,
    normalizeFilterValues_eq_iff h.statuses h'.statuses,
    normalizeFilterValues_eq_iff h.statusGroups h'.statusGroups,
    normalizeFilterValues_eq_iff h.lifecycles h'.lifecycles, hsubjects,
    normalizeFilterValues_eq_iff h.ownerIDs h'.ownerIDs,
    normalizeFilterValues_eq_iff h.participantIDs h'.participantIDs,
    normalizeFilterValues_eq_iff h.tags h'.tags, h.followUp.2, h'.followUp.2, h.action.2,
    h'.action.2, normalizeTimeRange_eq_iff h.occurred h'.occurred,
    normalizeTimeRange_eq_iff h.updated h'.updated, h.sort.2, h'.sort.2, h.pageSize.2, h'.pageSize.2]

/-! ### Canonical bytes -/

theorem utf8ByteSize_le (s : String) : s.utf8ByteSize ≤ 4 * s.length := by
  have h : ∀ l : List Char, (String.ofList l).utf8ByteSize ≤ 4 * l.length := by
    intro l
    induction l with
    | nil => simp
    | cons c l ih =>
      have hc := c.utf8Size_le_four
      rw [String.ofList_cons, String.utf8ByteSize_append, String.utf8ByteSize_singleton,
        length_cons]
      omega
  have hs := h s.toList
  rwa [String.ofList_toList, String.length_toList] at hs

theorem string_delimited : Framing.Delimited (fun s : String => s.length ≤ 256) Framing.string :=
  Framing.string_delimited.mono fun s hs => by
    have := utf8ByteSize_le s
    omega

theorem encodeSubject_delimited : Framing.Delimited SubjectFilter.Plain encodeSubject := by
  intro a b ha hb u v h
  simp only [encodeSubject, append_assoc] at h
  obtain ⟨hkind, h⟩ := string_delimited _ _ ha.lengths.1 hb.lengths.1 _ _ h
  obtain ⟨hrole, h⟩ := string_delimited _ _ ha.lengths.2.1 hb.lengths.2.1 _ _ h
  obtain ⟨hsource, h⟩ := string_delimited _ _ ha.lengths.2.2.1 hb.lengths.2.2.1 _ _ h
  obtain ⟨hplacement, hrest⟩ := string_delimited _ _ ha.lengths.2.2.2 hb.lengths.2.2.2 _ _ h
  cases a
  cases b
  simp_all

theorem normalizeFilterValues_short {values result : List String}
    (h : normalizeFilterValues field valid values = .ok result)
    (hvalid : ∀ s, valid s = true → s.length ≤ 256) :
    Short (fun s : String => s.length ≤ 256) result := by
  refine normalizeValues_short h fun s hs => hvalid s ?_
  by_contra hnot
  rw [if_neg hnot] at hs
  cases hs

theorem length_le_of_decide {s : String} {l : List String} (h : decide (s ∈ l) = true)
    (hall : ∀ s ∈ l, s.length ≤ 256) : s.length ≤ 256 :=
  hall s (of_decide_eq_true h)

theorem list_string_delimited :
    Framing.Delimited (Short fun s : String => s.length ≤ 256) (Framing.list Framing.string) :=
  Framing.list_delimited string_delimited

theorem validBusinessStatus_short {s : String} (h : validBusinessStatus s = true) :
    s.length ≤ 256 := by
  simp only [validBusinessStatus, List.any_eq_true, decide_eq_true_eq] at h
  obtain ⟨recordType, htype, entry, hentry, rfl⟩ := h
  have hall : ∀ t ∈ builtinRecordTypes, ∀ e ∈ recordTypeStatuses t, e.1.length ≤ 256 := by decide
  exact hall recordType htype entry hentry

theorem validUserID_short {s : String} (h : validUserID s = true) : s.length ≤ 256 :=
  (hexIdentity_plain h (by decide) (by decide)).2

/-- Every field of normalized values is delimited. -/
structure QueryValues.Bounded (n : QueryValues) : Prop where
  text : n.text.length ≤ 256
  types : Short (fun s : String => s.length ≤ 256) n.types
  statuses : Short (fun s : String => s.length ≤ 256) n.statuses
  statusGroups : Short (fun s : String => s.length ≤ 256) n.statusGroups
  lifecycles : Short (fun s : String => s.length ≤ 256) n.lifecycles
  subjects : Short SubjectFilter.Plain n.subjects
  ownerIDs : Short (fun s : String => s.length ≤ 256) n.ownerIDs
  participantIDs : Short (fun s : String => s.length ≤ 256) n.participantIDs
  tags : Short (fun s : String => s.length ≤ 256) n.tags
  followUp : n.followUp.length ≤ 256
  action : n.action.length ≤ 256
  occurred : (∀ t ∈ n.occurred.start, t.Stored) ∧ ∀ t ∈ n.occurred.stop, t.Stored
  updated : (∀ t ∈ n.updated.start, t.Stored) ∧ ∀ t ∈ n.updated.stop, t.Stored
  sort : n.sort.length ≤ 256
  pageSize : n.pageSize < 256 ^ 8

def QueryValues.InRange (v : QueryValues) : Prop := v.occurred.InRange ∧ v.updated.InRange

theorem Normalizes.bounded (h : Normalizes u v n) (hrange : v.InRange) : n.Bounded where
  text := (normalizeQueryText_ok.mp h.text).2
  types := normalizeFilterValues_short h.types fun _ hs =>
    length_le_of_decide hs (by decide)
  statuses := normalizeFilterValues_short h.statuses fun _ => validBusinessStatus_short
  statusGroups := normalizeFilterValues_short h.statusGroups fun _ hs =>
    length_le_of_decide hs (by decide)
  lifecycles := normalizeFilterValues_short h.lifecycles fun _ hs =>
    length_le_of_decide hs (by decide)
  subjects := normalizeValues_short h.subjects fun _ => checkSubject_plain
  ownerIDs := normalizeFilterValues_short h.ownerIDs fun _ => validUserID_short
  participantIDs := normalizeFilterValues_short h.participantIDs fun _ => validUserID_short
  tags := normalizeFilterValues_short h.tags fun s hs => by
    rw [Bool.and_eq_true, decide_eq_true_eq, decide_eq_true_eq] at hs
    exact hs.2.trans (by decide)
  followUp := by
    rw [h.followUp.2]
    exact length_le_of_decide h.followUp.1 (by decide)
  action := by
    rw [h.action.2]
    exact length_le_of_decide h.action.1 (by decide)
  occurred := normalizeTimeRange_stored h.occurred hrange.1
  updated := normalizeTimeRange_stored h.updated hrange.2
  sort := by
    rw [h.sort.2]
    exact length_le_of_decide h.sort.1 (by decide)
  pageSize := by
    have hle := h.pageSize.1
    rw [h.pageSize.2]
    simp only [maxPageSize] at hle
    omega

theorem canonicalQueryBytes_injective (h : n.Bounded) (h' : n'.Bounded)
    (heq : canonicalQueryBytes n = canonicalQueryBytes n') : n = n' := by
  have htime := Framing.option_delimited encodeTime_delimited
  have hsubject : Framing.Delimited (Short SubjectFilter.Plain) (Framing.list encodeSubject) :=
    Framing.list_delimited encodeSubject_delimited
  rw [canonicalQueryBytes, canonicalQueryBytes, append_cancel_left_eq, append_cancel_left_eq] at heq
  obtain ⟨h1, heq⟩ := string_delimited _ _ h.text h'.text _ _ heq
  obtain ⟨h2, heq⟩ := list_string_delimited _ _ h.types h'.types _ _ heq
  obtain ⟨h3, heq⟩ := list_string_delimited _ _ h.statuses h'.statuses _ _ heq
  obtain ⟨h4, heq⟩ := list_string_delimited _ _ h.statusGroups h'.statusGroups _ _ heq
  obtain ⟨h5, heq⟩ := list_string_delimited _ _ h.lifecycles h'.lifecycles _ _ heq
  obtain ⟨h6, heq⟩ := hsubject _ _ h.subjects h'.subjects _ _ heq
  obtain ⟨h7, heq⟩ := list_string_delimited _ _ h.ownerIDs h'.ownerIDs _ _ heq
  obtain ⟨h8, heq⟩ := list_string_delimited _ _ h.participantIDs h'.participantIDs _ _ heq
  obtain ⟨h9, heq⟩ := list_string_delimited _ _ h.tags h'.tags _ _ heq
  obtain ⟨h10, heq⟩ := string_delimited _ _ h.followUp h'.followUp _ _ heq
  obtain ⟨h11, heq⟩ := string_delimited _ _ h.action h'.action _ _ heq
  obtain ⟨h12, heq⟩ := htime _ _ h.occurred.1 h'.occurred.1 _ _ heq
  obtain ⟨h13, heq⟩ := htime _ _ h.occurred.2 h'.occurred.2 _ _ heq
  obtain ⟨h14, heq⟩ := htime _ _ h.updated.1 h'.updated.1 _ _ heq
  obtain ⟨h15, heq⟩ := htime _ _ h.updated.2 h'.updated.2 _ _ heq
  obtain ⟨h16, heq⟩ := string_delimited _ _ h.sort h'.sort _ _ heq
  have h17 := Framing.bigEndian_injective h.pageSize h'.pageSize heq
  exact QueryValues.ext h1 h2 h3 h4 h5 h6 h7 h8 h9 h10 h11 (TimeRange.ext h12 h13)
    (TimeRange.ext h14 h15) h16 h17

/-! ### Identity -/

/-- The question with its filter values in another order and its times in other zones. -/
structure Rearranged (v v' : QueryValues) : Prop where
  text : v'.text = v.text
  types : v'.types.Perm v.types
  statuses : v'.statuses.Perm v.statuses
  statusGroups : v'.statusGroups.Perm v.statusGroups
  lifecycles : v'.lifecycles.Perm v.lifecycles
  subjects : v'.subjects.Perm v.subjects
  ownerIDs : v'.ownerIDs.Perm v.ownerIDs
  participantIDs : v'.participantIDs.Perm v.participantIDs
  tags : v'.tags.Perm v.tags
  followUp : v'.followUp = v.followUp
  action : v'.action = v.action
  occurred : v'.occurred.start.map (·.instant) = v.occurred.start.map (·.instant) ∧
    v'.occurred.stop.map (·.instant) = v.occurred.stop.map (·.instant)
  updated : v'.updated.start.map (·.instant) = v.updated.start.map (·.instant) ∧
    v'.updated.stop.map (·.instant) = v.updated.stop.map (·.instant)
  sort : v'.sort = v.sort
  pageSize : v'.pageSize = v.pageSize

theorem normalizeFilterValues_perm {values values' result : List String}
    (hperm : values'.Perm values) (h : normalizeFilterValues field valid values = .ok result) :
    normalizeFilterValues field valid values' = .ok result :=
  normalizeValues_perm (fun _ _ _ _ hid => hid) hperm h

theorem normalizeRangeBound_zone (h : o'.map (·.instant) = o.map (·.instant)) :
    normalizeRangeBound field o' = normalizeRangeBound field o := by
  cases o with
  | none =>
    rw [map_none, map_eq_none_iff] at h
    rw [h]
  | some t =>
    rw [map_some, map_eq_some_iff] at h
    obtain ⟨t', rfl, ht⟩ := h
    simp only [normalizeRangeBound, Time.truncated, ht]

theorem normalizeTimeRange_zone (h : r'.start.map (·.instant) = r.start.map (·.instant) ∧
      r'.stop.map (·.instant) = r.stop.map (·.instant)) :
    normalizeTimeRange field r' = normalizeTimeRange field r := by
  rw [normalizeTimeRange, normalizeTimeRange, normalizeRangeBound_zone h.1,
    normalizeRangeBound_zone h.2]

theorem Normalizes.rearranged (h : Normalizes u v n) (hr : Rearranged v v') : Normalizes u v' n where
  text := hr.text ▸ h.text
  types := normalizeFilterValues_perm hr.types h.types
  statuses := normalizeFilterValues_perm hr.statuses h.statuses
  statusGroups := normalizeFilterValues_perm hr.statusGroups h.statusGroups
  lifecycles := normalizeFilterValues_perm hr.lifecycles h.lifecycles
  subjects := normalizeValues_perm (fun _ _ ha hb =>
    subjectFilterOrder_injective (checkSubject_plain ha) (checkSubject_plain hb)) hr.subjects h.subjects
  ownerIDs := normalizeFilterValues_perm hr.ownerIDs h.ownerIDs
  participantIDs := normalizeFilterValues_perm hr.participantIDs h.participantIDs
  tags := normalizeFilterValues_perm (hr.tags.map _) h.tags
  followUp := by
    rw [hr.followUp]
    exact h.followUp
  action := by
    rw [hr.action]
    exact h.action
  occurred := (normalizeTimeRange_zone hr.occurred).trans h.occurred
  updated := (normalizeTimeRange_zone hr.updated).trans h.updated
  sort := by
    rw [QueryValues.sortOrder, hr.sort]
    exact h.sort
  pageSize := by
    rw [QueryValues.pageLimit, hr.pageSize]
    exact h.pageSize

def QueryValues.Nonzero (v : QueryValues) : Prop := v.occurred.Nonzero ∧ v.updated.Nonzero

theorem Normalizes.idem (hu : u.Lawful) (h : Normalizes u v n) (hv : v.Nonzero) :
    Normalizes u n n where
  text := normalizeQueryText_idem hu h.text
  types := normalizeValues_idem h.types
  statuses := normalizeValues_idem h.statuses
  statusGroups := normalizeValues_idem h.statusGroups
  lifecycles := normalizeValues_idem h.lifecycles
  subjects := normalizeValues_idem h.subjects
  ownerIDs := normalizeValues_idem h.ownerIDs
  participantIDs := normalizeValues_idem h.participantIDs
  tags := by
    have hfolded : n.tags.map (foldTag u) = n.tags := by
      refine (map_congr_left fun tag htag => ?_).trans (List.map_id _)
      obtain ⟨tag', -, rfl⟩ := List.mem_map.mp ((mem_normalizeValues h.tags).mp htag)
      exact foldTag_foldTag hu tag'
    rw [normalizeTags, hfolded]
    exact normalizeValues_idem h.tags
  followUp := ⟨h.followUp.2 ▸ h.followUp.1, rfl⟩
  action := ⟨h.action.2 ▸ h.action.1, rfl⟩
  occurred := normalizeTimeRange_idem h.occurred hv.1
  updated := normalizeTimeRange_idem h.updated hv.2
  sort := by
    have hsort : n.sortOrder = n.sort := by
      have hvalid := h.sort.1
      rw [← h.sort.2] at hvalid
      refine if_neg fun hempty => ?_
      rw [hempty] at hvalid
      exact absurd hvalid (by decide)
    rw [hsort]
    exact ⟨h.sort.2 ▸ h.sort.1, rfl⟩
  pageSize := by
    have hpage : n.pageLimit = n.pageSize := by
      refine if_neg fun hzero => ?_
      have hlimit := h.pageSize.2
      rw [hzero, QueryValues.pageLimit] at hlimit
      split_ifs at hlimit with hv0
      · cases hlimit
      · exact hv0 hlimit.symm
    rw [hpage]
    exact ⟨h.pageSize.2 ▸ h.pageSize.1, rfl⟩

def QueryValues.Nodup (u : Unicode) (v : QueryValues) : Prop :=
  v.types.Nodup ∧ v.statuses.Nodup ∧ v.statusGroups.Nodup ∧ v.lifecycles.Nodup ∧ v.subjects.Nodup ∧
    v.ownerIDs.Nodup ∧ v.participantIDs.Nodup ∧ (v.tags.map (foldTag u)).Nodup

theorem Normalizes.nodup (h : Normalizes u v n) : v.Nodup u :=
  ⟨normalizeValues_nodup h.types, normalizeValues_nodup h.statuses,
    normalizeValues_nodup h.statusGroups, normalizeValues_nodup h.lifecycles,
    normalizeValues_nodup h.subjects, normalizeValues_nodup h.ownerIDs,
    normalizeValues_nodup h.participantIDs, normalizeValues_nodup h.tags⟩

end

/-- Accepted questions have the same canonical bytes, and the same digest, exactly when they ask the
same; the order of filter values and the zones of times do not matter, a value given twice is
refused, and normalized values are their own normalization. -/
theorem canonical_bytes_identify_questions {u : Unicode} {δ : Type} {sha256 : Framing.Bytes → δ}
    (hu : u.Lawful) (hsha : Function.Injective sha256) :
    (∀ v v' q q', normalizeQuery u v = .ok q → normalizeQuery u v' = .ok q' → v.InRange →
      v'.InRange → (q.canonicalBytes = q'.canonicalBytes ↔ SameQuestion u v v') ∧
        (sha256 q.canonicalBytes = sha256 q'.canonicalBytes ↔ SameQuestion u v v')) ∧
    (∀ v v' q, normalizeQuery u v = .ok q → Rearranged v v' → normalizeQuery u v' = .ok q) ∧
    (∀ v q, normalizeQuery u v = .ok q → v.Nodup u) ∧
    (∀ v q, normalizeQuery u v = .ok q → v.Nonzero → normalizeQuery u q.values = .ok q) := by
  refine ⟨fun v v' q q' h h' hrange hrange' => ?_, fun v v' q h hr => ?_, fun v q h => ?_,
    fun v q h hv => ?_⟩
  · obtain ⟨hn, hbytes⟩ := normalizeQuery_ok.mp h
    obtain ⟨hn', hbytes'⟩ := normalizeQuery_ok.mp h'
    have hiff : q.canonicalBytes = q'.canonicalBytes ↔ SameQuestion u v v' := by
      rw [← hn.eq_iff hn', hbytes, hbytes']
      exact ⟨canonicalQueryBytes_injective (hn.bounded hrange) (hn'.bounded hrange'),
        congrArg canonicalQueryBytes⟩
    exact ⟨hiff, hsha.eq_iff.trans hiff⟩
  · obtain ⟨hn, hbytes⟩ := normalizeQuery_ok.mp h
    exact normalizeQuery_ok.mpr ⟨hn.rearranged hr, hbytes⟩
  · exact (normalizeQuery_ok.mp h).1.nodup
  · obtain ⟨hn, hbytes⟩ := normalizeQuery_ok.mp h
    exact normalizeQuery_ok.mpr ⟨hn.idem hu hv, hbytes⟩

def sampleUnicode : Unicode := ⟨id, fun c => if c = 'A' then 'a' else c⟩

theorem sampleUnicode_lawful : sampleUnicode.Lawful where
  nfc_nfc _ := rfl
  nfc_spaces _ _ _ _ := rfl
  toLower_toLower c := by
    simp only [sampleUnicode]
    split_ifs <;> simp_all
  isSpace_toLower c := by
    simp only [sampleUnicode]
    split_ifs with h
    · rw [h]
      decide
    · rfl

def sampleQuery : QueryValues :=
  ⟨"", [], [], [], [], [], [], [], [], "", "", ⟨none, none⟩, ⟨none, none⟩, "", 0⟩

/-- The question with its tags in another order, and a bound in another zone. -/
theorem canonical_bytes_identify_questions_tags :
    ∃ q, normalizeQuery sampleUnicode
        { sampleQuery with tags := ["A", "b"], updated := ⟨some ⟨5000, 3600⟩, none⟩ } = .ok q ∧
      normalizeQuery sampleUnicode
        { sampleQuery with tags := ["b", "A"], updated := ⟨some ⟨5000, 0⟩, none⟩ } = .ok q := by
  have hfirst : (normalizeQuery sampleUnicode { sampleQuery with
      tags := ["A", "b"], updated := ⟨some ⟨5000, 3600⟩, none⟩ }).isOk = true := by decide +kernel
  obtain ⟨q, hq⟩ := except_isOk hfirst
  refine ⟨q, hq, (canonical_bytes_identify_questions sampleUnicode_lawful
    Function.injective_id).2.1 _ _ q hq ?_⟩
  exact ⟨rfl, .nil, .nil, .nil, .nil, .nil, .nil, .nil, .swap _ _ _, rfl, rfl, ⟨rfl, rfl⟩,
    ⟨rfl, rfl⟩, rfl, rfl⟩

/-- The page size is part of the bytes; a tag given twice is refused; bounds 2^64 microseconds apart
have the same bytes; and a bound just after the zero time is accepted and then cut down to it. -/
theorem page_size_tells_questions_apart :
    ((normalizeQuery sampleUnicode { sampleQuery with pageSize := 10 }).isOk = true ∧
      (normalizeQuery sampleUnicode { sampleQuery with pageSize := 20 }).isOk = true ∧
      (normalizeQuery sampleUnicode { sampleQuery with pageSize := 10 }).map (·.canonicalBytes) ≠
        (normalizeQuery sampleUnicode { sampleQuery with pageSize := 20 }).map (·.canonicalBytes)) ∧
    normalizeQuery sampleUnicode { sampleQuery with tags := ["b", "b"] } =
      .error ⟨"duplicate tag"⟩ ∧
    (normalizeQuery sampleUnicode
        { sampleQuery with updated := ⟨some ⟨1000, 0⟩, none⟩ }).map (·.canonicalBytes) =
      (normalizeQuery sampleUnicode { sampleQuery with
        updated := ⟨some ⟨1000 + 2 ^ 64 * 1000, 0⟩, none⟩ }).map (·.canonicalBytes) ∧
    ((normalizeQuery sampleUnicode { sampleQuery with
        updated := ⟨some ⟨zeroInstant + 1, 0⟩, none⟩ }).isOk = true ∧
      ((normalizeQuery sampleUnicode { sampleQuery with
        updated := ⟨some ⟨zeroInstant + 1, 0⟩, none⟩ }).bind fun q =>
          normalizeQuery sampleUnicode q.values) = .error ⟨"updated range"⟩) := by
  decide +kernel

end Houfeng.Search
