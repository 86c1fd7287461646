import Houfeng.Collaboration.ActionIndex
import Houfeng.Collaboration.Proofs.RecordFenceProofs
import Houfeng.Search.Service

/-!
# The filters of the search statement

An escaped term is matched literally. The action filters read the counters of the document, which
only a new revision writes.
-/

namespace Houfeng.Search

open List

/-! ## Text -/

variable {pattern text : List Char}

theorem like_percent : like ('%' :: pattern) text = true ↔ ∃ s, s <:+ text ∧ like pattern s = true := by
  induction text with
  | nil => simp [like]
  | cons c text ih =>
    rw [like, Bool.or_eq_true, ih]
    simp only [suffix_cons_iff, or_and_right, exists_or, exists_eq_left]

def Metacharacter (c : Char) : Prop := c = '\\' ∨ c = '%' ∨ c = '_'

theorem like_literal {c : Char} (hc : ¬ Metacharacter c) :
    like (c :: pattern) text = true ↔ ∃ s, c :: s = text ∧ like pattern s = true := by
  simp only [Metacharacter, not_or] at hc
  cases text with
  | nil => simp [like, hc]
  | cons d text => simp [like, hc]

theorem like_escaped {c : Char} :
    like ('\\' :: c :: pattern) text = true ↔ ∃ s, c :: s = text ∧ like pattern s = true := by
  cases text with
  | nil => simp [like]
  | cons d text => simp [like]

def escaped (c : Char) : List Char := if c = '\\' ∨ c = '%' ∨ c = '_' then ['\\', c] else [c]

theorem like_flatMap_escaped (term : List Char) :
    like (term.flatMap escaped ++ pattern) text = true ↔
      ∃ s, term ++ s = text ∧ like pattern s = true := by
  induction term generalizing text with
  | nil => simp
  | cons c term ih =>
    have hone : like (escaped c ++ (term.flatMap escaped ++ pattern)) text = true ↔
        ∃ s, c :: s = text ∧ like (term.flatMap escaped ++ pattern) s = true := by
      unfold escaped
      split_ifs with hc
      · exact like_escaped
      · exact like_literal hc
    rw [flatMap_cons, append_assoc, hone]
    simp only [ih, cons_append]
    constructor
    · rintro ⟨s, rfl, s', rfl, hlike⟩
      exact ⟨s', rfl, hlike⟩
    · rintro ⟨s', rfl, hlike⟩
      exact ⟨term ++ s', rfl, s', rfl, hlike⟩

/-- A lower-casing function: it works on single characters, and the metacharacters of a pattern have
no case. -/
structure LowerCase where
  lowerChar : Char → Char
  fixed : ∀ c, Metacharacter c ∨ Metacharacter (lowerChar c) → lowerChar c = c

def LowerCase.lower (l : LowerCase) (text : String) : String :=
  String.ofList (text.toList.map l.lowerChar)

theorem LowerCase.map_escaped (l : LowerCase) (c : Char) :
    (escaped c).map l.lowerChar = escaped (l.lowerChar c) := by
  by_cases hc : Metacharacter c ∨ Metacharacter (l.lowerChar c)
  · have hslash : l.lowerChar '\\' = '\\' := l.fixed _ (.inl (.inl rfl))
    have hfixed := l.fixed c hc
    rw [hfixed, or_self] at hc
    simp only [Metacharacter] at hc
    simp [escaped, hc, hfixed, hslash]
  · simp only [Metacharacter, not_or] at hc
    simp [escaped, hc]

/-- The text filter holds of exactly the documents in whose text the lower-cased term occurs. -/
theorem text_filter_literal (l : LowerCase) (term : String) (d : Document) :
    matchesText l.lower term d = true ↔ (l.lower term).toList <:+: d.searchText.toList := by
  have hpattern : (l.lower (String.ofList (escapeSearchTextPattern term))).toList =
      (l.lower term).toList.flatMap escaped := by
    simp only [LowerCase.lower, escapeSearchTextPattern, String.toList_ofList, map_flatMap,
      flatMap_map]
    exact flatMap_congr fun c _ => l.map_escaped c
  have hlike : like ('%' :: (l.lower term).toList.flatMap escaped ++ ['%']) d.searchText.toList =
      true ↔ (l.lower term).toList <:+: d.searchText.toList := by
    rw [cons_append, like_percent]
    constructor
    · rintro ⟨s, ⟨before, hbefore⟩, hs⟩
      obtain ⟨s', rfl, -⟩ := (like_flatMap_escaped _).mp hs
      exact ⟨before, s', by rw [append_assoc, hbefore]⟩
    · rintro ⟨before, s', hsplit⟩
      refine ⟨(l.lower term).toList ++ s', ⟨before, by rw [← append_assoc, hsplit]⟩, ?_⟩
      exact (like_flatMap_escaped _).mpr ⟨s', rfl, like_percent.mpr ⟨[], s'.nil_suffix, by simp [like]⟩⟩
  by_cases hempty : term = ""
  · subst hempty
    simp [matchesText, LowerCase.lower]
  · rw [matchesText, hpattern, hlike.symm]
    simp [hempty]

/-- The lower-casing of ASCII letters. -/
def asciiLower : LowerCase where
  lowerChar := Char.toLower
  fixed c h := by
    by_contra hne
    have hupper : 'A' ≤ c ∧ c ≤ 'Z' := by
      by_contra hno
      exact hne (dif_neg hno)
    have hletters : ∀ n ≤ 90, 65 ≤ n →
        ¬ (Metacharacter (Char.ofNat n) ∨ Metacharacter (Char.ofNat n).toLower) := by
      unfold Metacharacter
      decide
    exact hletters c.toNat hupper.2 hupper.1 (by rwa [Char.ofNat_toNat])

def markedDocument (searchText : String) : Document :=
  ⟨"rec_a", "active", "note", none, none, none, searchText, [], [], 0, none, none, none, 1, []⟩

/-- The term `50%_A` is found as it is written, in lower case, and matches nothing else. -/
theorem text_filter_literal_metacharacters :
    matchesText asciiLower.lower "50%_A" (markedDocument "up 50%_a today") = true ∧
      matchesText asciiLower.lower "50%_A" (markedDocument "up 50 of aa today") = false := by
  refine ⟨(text_filter_literal asciiLower _ _).mpr ?_, ?_⟩
  · exact ⟨"up ".toList, " today".toList, by decide⟩
  · rw [Bool.eq_false_iff, Ne, text_filter_literal]
    decide

/-! ## Actions -/

open Collaboration RecordPlatform

variable {ρ : Type} {s s' : IndexedRecord ρ} {object : ObjectRef}

def epoch (s : IndexedRecord ρ) : Nat := s.fence.deliveryEpoch.getD 0

def actionCounters (s : IndexedRecord ρ) : Nat × Option Int :=
  ((openActions s.rows (epoch s)).length,
    ((openActions s.rows (epoch s)).filterMap (·.dueAt)).min?)

def documentCounters (s : IndexedRecord ρ) : Nat × Option Int :=
  (s.document.openActionCount, s.document.nextActionDueAt)

/-- The document is not ahead of its record, and the ids of the actions are a key. -/
structure Current (s : IndexedRecord ρ) : Prop where
  lockVersion : s.document.lockVersion ≤ s.rows.root.lockVersion
  fenceEpoch : s.document.fenceEpoch ≤ epoch s
  actionKey : (s.rows.actions.map (·.actionID)).Nodup

/-- The earliest due time of the open actions once an update has given its action a due time. -/
def earliestDue (s : IndexedRecord ρ) (command : ActionCommand) : Option Int :=
  ((openActions s.rows (epoch s)).filterMap fun row =>
    if row.actionID = command.actionID then command.dueAt else row.dueAt).min?

/-- The commands after which a document that was right is right. A creation and a reopening add an
open action. Completing or cancelling an action removes one that is counted. An update keeps the
count unless it brings an open action of an earlier epoch back, and must keep the earliest due
time. -/
def KeepsCounters (s : IndexedRecord ρ) : RecordCommand ρ → Prop
  | .revise _ | .move _ => True
  | .create _ | .mutate .reopen _ => False
  | .mutate .update command => ∀ row ∈ s.rows.actions, row.actionID = command.actionID →
      row.status = .open →
        row.fenceEpoch = epoch s ∧ earliestDue s command = (actionCounters s).2
  | .mutate .complete command | .mutate .cancel command => ∀ row ∈ s.rows.actions,
      row.actionID = command.actionID → row.fenceEpoch ≠ epoch s

def revises : RecordCommand ρ → Bool
  | .revise command => !command.unchanged
  | _ => false

theorem assertRecordMutationFence_epoch {timestamp : Int} {fence : ObjectRows} {n : Nat}
    (h : assertRecordMutationFence object timestamp fence = .ok n) :
    n = fence.deliveryEpoch.getD 0 := by
  unfold assertRecordMutationFence at h
  split_ifs at h
  exact (Except.ok.inj h).symm

theorem map_ite_of_ne {l : List ActionRow} {actionID : String} {updated : ActionRow}
    (h : ∀ row ∈ l, row.actionID ≠ actionID) :
    (l.map fun row => if row.actionID = actionID then updated else row) = l :=
  (map_congr_left fun row hrow => if_neg (h row hrow)).trans (map_id' l)

theorem updateRecordAction_split {rows : CollaborationRows ρ} {n : Nat} {timestamp : Int}
    {kind : ActionMutationKind} {command : ActionCommand} {row : ActionRow} {status : ActionStatus}
    {l₁ l₂ : List ActionRow} (hsplit : rows.actions = l₁ ++ row :: l₂)
    (hothers : ∀ other ∈ l₁ ++ l₂, other.actionID ≠ row.actionID) :
    ∃ updated : ActionRow, updateRecordAction rows n timestamp kind command row status =
        { rows with actions := l₁ ++ updated :: l₂ } ∧
      updated.status = status ∧ updated.fenceEpoch = n ∧ updated.actionID = row.actionID ∧
      updated.dueAt = if kind = .update then command.dueAt else row.dueAt := by
  rw [forall_mem_append] at hothers
  apply Exists.intro
  constructor
  · rw [updateRecordAction, hsplit, map_append, map_cons, if_pos rfl,
      map_ite_of_ne hothers.1, map_ite_of_ne hothers.2]
  · refine ⟨rfl, rfl, ?_, ?_⟩ <;> split_ifs <;> rfl

/-- What a committed mutation of an action does to the rows: one action changes, in its place. -/
theorem commitAction_eq_ok {timestamp : Int} {kind : ActionMutationKind} {command : ActionCommand}
    {fence : ObjectRows} {rows : CollaborationRows ρ}
    {r : ActionMutationResult × CollaborationRows ρ}
    (hkey : (rows.actions.map (·.actionID)).Nodup)
    (h : commitAction object timestamp kind command fence rows = .ok r) :
    ∃ l₁ row l₂ updated status, rows.actions = l₁ ++ row :: l₂ ∧
      r.2 = { rows with actions := l₁ ++ updated :: l₂ } ∧ row.actionID = command.actionID ∧
      (∀ other ∈ l₁ ++ l₂, other.actionID ≠ command.actionID) ∧
      nextActionStatus kind row.status = .ok status ∧ updated.status = status ∧
      updated.fenceEpoch = fence.deliveryEpoch.getD 0 ∧ updated.actionID = row.actionID ∧
      updated.dueAt = if kind = .update then command.dueAt else row.dueAt := by
  obtain ⟨n, hn, h⟩ := except_bind_eq_ok h
  obtain rfl := assertRecordMutationFence_epoch hn
  obtain ⟨-, -, h⟩ := except_bind_eq_ok h
  obtain ⟨-, -, h⟩ := except_bind_eq_ok h
  obtain ⟨row, hrow, h⟩ := except_bind_eq_ok h
  obtain ⟨-, -, h⟩ := except_bind_eq_ok h
  obtain ⟨status, hstatus, h⟩ := except_bind_eq_ok h
  obtain ⟨-, -, h⟩ := except_bind_eq_ok h
  cases h
  have hfind : rows.actions.find? (·.actionID = command.actionID) = some row := by
    unfold lockRecordAction at hrow
    split at hrow
    · cases hrow
    · split_ifs at hrow
      cases hrow
      assumption
  have hid : row.actionID = command.actionID := by simpa using find?_some hfind
  obtain ⟨l₁, l₂, hsplit⟩ := append_of_mem (mem_of_find?_eq_some hfind)
  have hothers : ∀ other ∈ l₁ ++ l₂, other.actionID ≠ row.actionID := by
    rw [hsplit, map_append, map_cons, nodup_middle, nodup_cons, ← map_append] at hkey
    intro other hother heq
    exact hkey.1 (heq ▸ mem_map_of_mem hother)
  obtain ⟨updated, hrows, hupdated⟩ := updateRecordAction_split hsplit hothers
  exact ⟨l₁, row, l₂, updated, status, hsplit, hrows, hid, hid ▸ hothers, hstatus, hupdated⟩

theorem openActions_split {rows : CollaborationRows ρ} {l₁ l₂ : List ActionRow} {row : ActionRow}
    (n : Nat) : openActions { rows with actions := l₁ ++ row :: l₂ } n =
      openActions { rows with actions := l₁ } n ++
        ((if row.fenceEpoch = n ∧ row.status = .open then [row] else []) ++
          openActions { rows with actions := l₂ } n) := by
  simp only [openActions, filter_append, filter_cons, decide_eq_true_eq]
  split_ifs <;> rfl

theorem forall_actionID {l₁ l₂ : List ActionRow} {row : ActionRow} {id : String}
    {P : ActionRow → Prop} (hid : row.actionID = id)
    (hothers : ∀ other ∈ l₁ ++ l₂, other.actionID ≠ id) :
    (∀ other ∈ l₁ ++ row :: l₂, other.actionID = id → P other) ↔ P row := by
  constructor
  · intro h
    exact h row (by simp) hid
  · intro h other hother heq
    rw [mem_append, mem_cons, or_left_comm, ← mem_append] at hother
    exact hother.elim (fun he => he ▸ h) fun hother => absurd heq (hothers other hother)

/-- A mutation keeps the counters of the open actions exactly if `KeepsCounters` says so. -/
theorem actionCounters_mutate {timestamp : Int} {kind : ActionMutationKind}
    {command : ActionCommand} {r : ActionMutationResult × CollaborationRows ρ} (hs : Current s)
    (h : commitAction object timestamp kind command s.fence s.rows = .ok r) :
    actionCounters { s with rows := r.2 } = actionCounters s ↔
      KeepsCounters s (.mutate kind command) := by
  obtain ⟨l₁, row, l₂, updated, status, hrows, hr, hid, hothers, hnext, hstatus, hepoch, -, hdue⟩ :=
    commitAction_eq_ok hs.actionKey h
  have hbefore : openActions s.rows (epoch s) = _ :=
    (congrArg (fun a => openActions { s.rows with actions := a } (epoch s)) hrows).trans
      (openActions_split _)
  have hafter : openActions r.2 (epoch s) = _ :=
    (congrArg (fun rows => openActions rows (epoch s)) hr).trans (openActions_split _)
  have hepoch' : updated.fenceEpoch = epoch s := hepoch
  rw [actionCounters, actionCounters, show epoch { s with rows := r.2 } = epoch s from rfl, hbefore,
    hafter, hstatus, hepoch']
  cases kind with
  | update =>
    cases hnext
    rw [KeepsCounters, hrows, forall_actionID hid hothers]
    by_cases hopen : row.status = .open
    · by_cases hcounted : row.fenceEpoch = epoch s
      · have hkept : ∀ l ⊆ l₁ ++ l₂,
            (openActions { s.rows with actions := l } (epoch s)).filterMap (fun other =>
              if other.actionID = command.actionID then command.dueAt else other.dueAt) =
            (openActions { s.rows with actions := l } (epoch s)).filterMap (·.dueAt) :=
          fun l hl => filterMap_congr fun other hother =>
            if_neg (hothers other (hl (mem_of_mem_filter hother)))
        simp [earliestDue, actionCounters, hbefore, hopen, hcounted, hid, hdue, filterMap_cons,
          hkept l₁ (subset_append_left _ _), hkept l₂ (subset_append_right _ _)]
      · simp [hopen, hcounted]
    · simp [hopen]
  | complete | cancel =>
    rw [KeepsCounters, hrows, forall_actionID hid hothers]
    have hopen : row.status = .open := by
      cases hrow : row.status <;> rw [hrow] at hnext <;> cases hnext
    rw [hopen] at hnext ⊢
    cases hnext
    by_cases hcounted : row.fenceEpoch = epoch s <;> simp [hcounted]
  | reopen =>
    have hclosed : row.status ≠ .open ∧ status = .open := by
      cases hrow : row.status <;> rw [hrow] at hnext <;> cases hnext <;> simp
    simp [KeepsCounters, hclosed]

/-- A command leaves the counters right exactly if `KeepsCounters` says so. -/
theorem recordStep_counters {command : RecordCommand ρ} (hs : Current s)
    (h : RecordStep object s command s') :
    (revises command = true ∨ actionCounters s' = actionCounters s) ↔ KeepsCounters s command := by
  obtain ⟨timestamp, h⟩ := h
  cases command with
  | revise command =>
    obtain ⟨n, hn, h⟩ := except_bind_eq_ok h
    obtain ⟨-, -, h⟩ := except_bind_eq_ok h
    by_cases hsame : command.unchanged = true
    · rw [if_pos hsame] at h
      cases h
      simp [KeepsCounters]
    · simp [KeepsCounters, revises, hsame]
  | move command =>
    obtain ⟨n, -, h⟩ := except_bind_eq_ok h
    obtain ⟨-, -, h⟩ := except_bind_eq_ok h
    cases h
    exact iff_of_true (.inr rfl) trivial
  | create command =>
    obtain ⟨rows, hrows, h⟩ := except_bind_eq_ok h
    cases h
    obtain ⟨n, hn, hrows⟩ := except_bind_eq_ok hrows
    obtain rfl := assertRecordMutationFence_epoch hn
    obtain ⟨-, -, hrows⟩ := except_bind_eq_ok hrows
    obtain ⟨-, -, hrows⟩ := except_bind_eq_ok hrows
    obtain ⟨-, -, hrows⟩ := except_bind_eq_ok hrows
    cases hrows
    refine iff_of_false ?_ id
    intro h
    have hlength := congrArg Prod.fst (h.resolve_left nofun)
    simp only [actionCounters, openActions, epoch, decide_true, and_self, filter_cons_of_pos,
      length_cons] at hlength
    exact Nat.succ_ne_self _ hlength
  | mutate kind command =>
    obtain ⟨r, hr, h⟩ := except_bind_eq_ok h
    cases h
    simpa [revises] using actionCounters_mutate hs hr

theorem recordStep_document {command : RecordCommand ρ} (hs : Current s)
    (h : RecordStep object s command s') :
    Current s' ∧ if revises command then documentCounters s' = actionCounters s'
      else documentCounters s' = documentCounters s := by
  obtain ⟨timestamp, h⟩ := h
  cases command with
  | revise command =>
    obtain ⟨n, hn, h⟩ := except_bind_eq_ok h
    obtain ⟨-, -, h⟩ := except_bind_eq_ok h
    obtain rfl := assertRecordMutationFence_epoch hn
    by_cases hsame : command.unchanged = true
    · rw [if_pos hsame] at h
      cases h
      simp [revises, hsame, hs]
    · rw [if_neg hsame] at h
      cases h
      have hwins : s.document.lockVersion ≤ s.rows.root.lockVersion + 1 ∧
          s.document.fenceEpoch ≤ s.fence.deliveryEpoch.getD 0 :=
        ⟨hs.lockVersion.trans (Nat.le_succ _), hs.fenceEpoch⟩
      rw [upsertRecordSearchDocument, if_pos hwins, if_pos (by simp [revises, hsame])]
      exact ⟨⟨le_rfl, le_rfl, hs.actionKey⟩, rfl⟩
  | move command =>
    obtain ⟨n, -, h⟩ := except_bind_eq_ok h
    obtain ⟨-, -, h⟩ := except_bind_eq_ok h
    cases h
    have hwins : s.document.lockVersion ≤ s.rows.root.lockVersion + 1 :=
      hs.lockVersion.trans (Nat.le_succ _)
    rw [projectRecordSearchLifecycle, if_pos hwins]
    exact ⟨⟨le_rfl, hs.fenceEpoch, hs.actionKey⟩, rfl⟩
  | create command =>
    obtain ⟨rows, hrows, h⟩ := except_bind_eq_ok h
    cases h
    obtain ⟨n, -, hrows⟩ := except_bind_eq_ok hrows
    obtain ⟨-, -, hrows⟩ := except_bind_eq_ok hrows
    obtain ⟨-, -, hrows⟩ := except_bind_eq_ok hrows
    obtain ⟨_, hfresh, hrows⟩ := except_bind_eq_ok hrows
    cases hrows
    refine ⟨⟨hs.lockVersion, hs.fenceEpoch, ?_⟩, rfl⟩
    rw [map_cons, nodup_cons, mem_map, not_exists]
    exact ⟨fun row hrow => ensure_eq_ok hfresh row hrow.1 hrow.2, hs.actionKey⟩
  | mutate kind command =>
    obtain ⟨r, hr, h⟩ := except_bind_eq_ok h
    cases h
    obtain ⟨l₁, row, l₂, updated, -, hrows, hafter, -, -, -, -, -, hid, -⟩ :=
      commitAction_eq_ok hs.actionKey hr
    have hkey := hs.actionKey
    rw [hrows] at hkey
    refine ⟨⟨?_, hs.fenceEpoch, ?_⟩, rfl⟩ <;> rw [hafter]
    · exact hs.lockVersion
    · simpa [hid] using hkey

/-- The action filters select a document of the record exactly if its open actions satisfy them. -/
def FiltersExact (s : IndexedRecord ρ) : Prop :=
  ∀ (d : Document) (now : Int), (d.openActionCount, d.nextActionDueAt) = documentCounters s →
    (matchesAction "none" now d = true ↔ openActions s.rows (epoch s) = []) ∧
    (matchesAction "open" now d = true ↔ openActions s.rows (epoch s) ≠ []) ∧
    (matchesAction "overdue" now d = true ↔
      ∃ row ∈ openActions s.rows (epoch s), ∃ due, row.dueAt = some due ∧ due < now)

theorem filtersExact_of_counters (h : documentCounters s = actionCounters s) : FiltersExact s := by
  intro d now hd
  obtain ⟨hcount, hdue⟩ := Prod.mk.inj (hd.trans h)
  refine ⟨?_, ?_, ?_⟩
  · simp [matchesAction, hcount]
  · simp [matchesAction, hcount, length_pos_iff]
  · simp only [matchesAction, hdue, Option.any_eq_true, decide_eq_true_eq]
    constructor
    · rintro ⟨due, hmin, hlt⟩
      obtain ⟨row, hrow, hrowdue⟩ := mem_filterMap.mp (min?_mem hmin)
      exact ⟨row, hrow, due, hrowdue, hlt⟩
    · rintro ⟨row, hrow, due, hrowdue, hlt⟩
      have hmem : due ∈ (openActions s.rows (epoch s)).filterMap (·.dueAt) :=
        mem_filterMap.mpr ⟨row, hrow, hrowdue⟩
      obtain ⟨least, hmin⟩ := Option.isSome_iff_exists.mp
        (isSome_min?_of_mem hmem)
      exact ⟨least, hmin, ((min?_eq_some_iff.mp hmin).2 due hmem).trans_lt hlt⟩

/-- The counters of the document stay right along a run exactly if every command keeps them by what
it asks and what the record holds before it; and while they are right, so are the filters. -/
theorem action_filters_exact_iff {t : List (RunStep (IndexedRecord ρ) (RecordCommand ρ))}
    (hs : Current s) (hright : documentCounters s = actionCounters s)
    (hrun : Run (RecordStep object) s t s') :
    ((∀ e ∈ t, documentCounters e.after = actionCounters e.after) ↔
      ∀ e ∈ t, KeepsCounters e.before e.label) ∧
    ∀ e ∈ t, documentCounters e.after = actionCounters e.after → FiltersExact e.after := by
  refine ⟨?_, fun e _ => filtersExact_of_counters⟩
  induction hrun with
  | nil => simp
  | @cons s s1 s' command t hstep _ ih =>
    obtain ⟨hs1, hdocument⟩ := recordStep_document hs hstep
    have hone : documentCounters s1 = actionCounters s1 ↔ KeepsCounters s command := by
      rw [← recordStep_counters hs hstep]
      split_ifs at hdocument with hrevises
      · simp [hdocument, hrevises]
      · rw [hdocument, hright]
        simp [hrevises, eq_comm]
    rw [forall_mem_cons, forall_mem_cons]
    dsimp only
    rw [← hone]
    exact and_congr_right fun hright1 => ih hs1 hright1

def sampleIndexed : IndexedRecord String := ⟨sampleBefore, bareRows, ⟨1, 0, .active, 0, none⟩⟩

/-- A record with two open actions and its document. -/
def busyIndexed : IndexedRecord String :=
  { sampleIndexed with
    rows :=
      { bareRows with
        actions :=
          [⟨"ract_a", 1, .open, "call", "", none, some 5, none, none, 1, 1, 0⟩,
            ⟨"ract_b", 1, .open, "write", "", none, some 7, none, none, 1, 1, 0⟩] }
    document := ⟨1, 0, .active, 2, some 5⟩ }

def sampleRevision : RevisionCommand String := ⟨"rrv_a", 1, 1, "rrv_b", "new text", false⟩

/-- The later of the two actions is put off, then its record is revised and archived. -/
theorem action_filters_exact_iff_busy :
    documentCounters busyIndexed = actionCounters busyIndexed ∧
      ∃ s₁ s₂ s₃,
        RecordStep sampleObject busyIndexed (.mutate .update
          ⟨sampleExpectation, "ract_b", 1, "write", "", none, some 9, none, .ok ()⟩) s₁ ∧
        RecordStep sampleObject s₁ (.revise sampleRevision) s₂ ∧
        RecordStep sampleObject s₂ (.move ⟨"rrv_b", 2, 2, .archived⟩) s₃ ∧
        FiltersExact s₁ ∧ FiltersExact s₂ ∧ FiltersExact s₃ := by
  have hrun : Run (RecordStep sampleObject) busyIndexed
      [⟨_, .mutate .update ⟨sampleExpectation, "ract_b", 1, "write", "", none, some 9, none, .ok ()⟩, _⟩,
        ⟨_, .revise sampleRevision, _⟩, ⟨_, .move ⟨"rrv_b", 2, 2, .archived⟩, _⟩] _ :=
    .cons ⟨1, rfl⟩ (.cons ⟨1, rfl⟩ (.cons ⟨1, rfl⟩ (.nil _)))
  have h := action_filters_exact_iff (s := busyIndexed) ⟨by decide, by decide, by decide⟩ rfl hrun
  have hkeeps := h.1.mpr (forall_mem_cons.mpr ⟨by
      simp only [KeepsCounters]
      decide, by simp [KeepsCounters]⟩)
  have hexact := fun e he => h.2 e he (hkeeps e he)
  exact ⟨rfl, _, _, _, ⟨1, rfl⟩, ⟨1, rfl⟩, ⟨1, rfl⟩, hexact _ (.head _), hexact _ (.tail _ (.head _)),
    hexact _ (.tail _ (.tail _ (.head _)))⟩

def sampleAction : ActionCommand :=
  ⟨sampleExpectation, "ract_a", 0, "call", "", none, some 5, none, .ok ()⟩

/-- A created action is open and overdue, and no filter finds its record. -/
theorem created_action_not_found :
    documentCounters sampleIndexed = actionCounters sampleIndexed ∧
      ∃ s', RecordStep sampleObject sampleIndexed (.create sampleAction) s' ∧
        actionCounters s' = (1, some 5) ∧ documentCounters s' = (0, none) ∧
        ∀ d : Document, (d.openActionCount, d.nextActionDueAt) = documentCounters s' →
          matchesAction "open" 9 d = false ∧ matchesAction "overdue" 9 d = false := by
  refine ⟨rfl, _, ⟨1, rfl⟩, rfl, rfl, fun d hd => ?_⟩
  obtain ⟨hcount, hdue⟩ := Prod.mk.inj hd
  rw [matchesAction, matchesAction, hcount, hdue]
  exact ⟨rfl, rfl⟩

end Houfeng.Search
