import Houfeng.Attachments.ActiveText

/-!
# What the active text detector misses

The detector follows one candidate tag at a time. A marker whose `<` is read while no candidate is
open makes the detector active (`marker_missed`), however the text is cut into chunks. A `<` that is
read inside a candidate starts none, and exactly the markers that start there are admitted.
-/

open List

namespace Houfeng.Attachments

open Framing (Bytes)

/-! ## Bytes and their lowering -/

variable {v : UInt8}

theorem lowerASCII_upper (h : 0x41 ≤ v ∧ v ≤ 0x5a) : 0x61 ≤ lowerASCII v ∧ lowerASCII v ≤ 0x7a := by
  rw [lowerASCII, if_pos (by simpa using h)]
  simp only [UInt8.le_iff_toNat_le, UInt8.toNat_add, UInt8.reduceToNat] at h ⊢
  omega

theorem lowerASCII_other (h : ¬(0x41 ≤ v ∧ v ≤ 0x5a)) : lowerASCII v = v := by
  rw [lowerASCII, if_neg (by simpa using h)]

theorem lowerASCII_cases (v : UInt8) :
    lowerASCII v = v ∨ (isASCIIAlpha v = true ∧ 0x61 ≤ lowerASCII v ∧ lowerASCII v ≤ 0x7a) := by
  by_cases h : 0x41 ≤ v ∧ v ≤ 0x5a
  · exact .inr ⟨by simp [isASCIIAlpha, h], lowerASCII_upper h⟩
  · exact .inl (lowerASCII_other h)

theorem eq_of_lowerASCII_eq {w : UInt8} (hw : ¬(0x61 ≤ w ∧ w ≤ 0x7a)) (h : lowerASCII v = w) :
    v = w := by
  rcases lowerASCII_cases v with hv | ⟨-, hv⟩
  · rw [← hv, h]
  · rw [h] at hv
    exact absurd hv hw

theorem lowerASCII_of_whitespace (h : isActiveTextWhitespace v = true) :
    lowerASCII v ∈ whitespace := by
  simp only [isActiveTextWhitespace, decide_eq_true_eq] at h
  rw [lowerASCII_other]
  · exact h
  · simp only [whitespace, mem_cons, not_mem_nil, or_false] at h
    rcases h with rfl | rfl | rfl | rfl | rfl | rfl <;> decide

theorem isASCIIAlpha_of_lowerASCII (h : isASCIIAlpha (lowerASCII v) = true) :
    isASCIIAlpha v = true := by
  rcases lowerASCII_cases v with hv | ⟨hv, -⟩
  · rwa [hv] at h
  · exact hv

/-- What the detector relies on in a marker: its length, that no `>` ends it early, and that its
second byte keeps the candidate. -/
theorem marker_shape : ∀ m ∈ incompleteActiveMarkup,
    m.head? = some 0x3c ∧ 2 ≤ m.length ∧ m.length ≤ maxActiveTextTagBytes ∧ 0x3e ∉ m ∧
      ∀ x ∈ m[1]?, x ∉ whitespace ∧ (x = 0x2f ∨ x = 0x21 ∨ x = 0x3f ∨ isASCIIAlpha x = true) := by
  intro m hm
  simp only [incompleteActiveMarkup, mem_cons, not_mem_nil, or_false] at hm
  rcases hm with rfl | rfl | rfl | rfl | rfl | rfl <;>
    refine ⟨by decide, by decide, by decide, by decide, ?_⟩ <;>
    · intro x hx
      cases hx
      decide

/-! ## Contexts do not matter -/

section Agrees

variable {α β : Type} {x y : Checked α}

def Agrees (x y : Checked α) : Prop :=
  ∀ n a n', x n = .ok (a, n') → ∀ m, ∃ m', y m = .ok (a, m')

theorem Agrees.pure (a : α) : Agrees (Pure.pure a) (Pure.pure a) := by
  intro n b n' h m
  cases h
  exact ⟨m, rfl⟩

theorem Agrees.bind {f g : α → Checked β} (h : Agrees x y) (hf : ∀ a, Agrees (f a) (g a)) :
    Agrees (x >>= f) (y >>= g) := by
  intro n b n' hb m
  obtain ⟨a, n1, ha, hb⟩ := Tx.bind_eq_ok hb
  obtain ⟨m1, hm1⟩ := h n a n1 ha m
  obtain ⟨m', hm'⟩ := hf a n1 b n' hb m1
  exact ⟨m', by rw [Tx.bind_of_ok hm1, hm']⟩

theorem Agrees.ctxErr (ctx : Context) : Agrees (ctxErr ctx) (ctxErr background) := by
  intro n a n' _ m
  exact ⟨m + 1, rfl⟩

end Agrees

variable {m : Bytes}

namespace ActiveTextDetector

variable {p : Parsers} {ctx : Context} {d d' : ActiveTextDetector}

theorem observeTag_agrees (d : ActiveTextDetector) (original lower : UInt8) :
    Agrees (observeTag p ctx d original lower) (observeTag p background d original lower) := by
  simp only [observeTag]
  split_ifs
  all_goals first
    | exact .pure _
    | refine .bind (.ctxErr ctx) fun _ => ?_
      split <;> exact .pure _

theorem observeByte_agrees (d : ActiveTextDetector) (value : UInt8) :
    Agrees (observeByte p ctx d value) (observeByte p background d value) := by
  simp only [observeByte]
  split_ifs
  · exact .pure _
  · exact observeTag_agrees _ _ _

theorem observeBytes_agrees (d : ActiveTextDetector) (bytes : Bytes) :
    Agrees (observeBytes p ctx d bytes) (observeBytes p background d bytes) := by
  induction bytes generalizing d with
  | nil => exact .pure d
  | cons b bytes ih => exact .bind (observeByte_agrees d b) ih

theorem observeNext_agrees (d : ActiveTextDetector) (value : UInt8) :
    Agrees (observeNext p ctx d value) (observeNext p background d value) := by
  simp only [observeNext]
  split_ifs
  · exact .pure _
  · exact .pure _
  · exact .bind (observeBytes_agrees _ _) fun _ => .pure _
  · exact observeByte_agrees _ _

/-! ## What one byte does -/

section Leading

variable (d : ActiveTextDetector) (lower original : UInt8)

theorem observeLeadingSignature_frame :
    (d.observeLeadingSignature lower original).tagCandidate = d.tagCandidate ∧
      (d.observeLeadingSignature lower original).bomChecked = d.bomChecked ∧
      (d.observeLeadingSignature lower original).initialized = d.initialized := by
  simp only [observeLeadingSignature]
  split_ifs <;> exact ⟨rfl, rfl, rfl⟩

theorem observeLeadingSignature_active (h : d.active = true) :
    (d.observeLeadingSignature lower original).active = true := by
  simp only [observeLeadingSignature]
  split_ifs <;> first | exact h | rfl

end Leading

variable {n n' : Nat}

theorem observeTag_frame {original lower : UInt8}
    (h : observeTag p ctx d original lower n = .ok (d', n')) :
    d'.bomChecked = d.bomChecked ∧ d'.initialized = d.initialized := by
  simp only [observeTag] at h
  split_ifs at h
  all_goals first
    | cases h; exact ⟨rfl, rfl⟩
    | obtain ⟨-, n1, -, h⟩ := Tx.bind_eq_ok h
      generalize activeMarkupCandidate p _ = verdict at h
      rcases verdict with ⟨_ | _, _ | _⟩ <;> cases h <;> exact ⟨rfl, rfl⟩

variable {value : UInt8}

section

variable (h : observeByte p ctx d value n = .ok (d', n'))
include h

theorem observeByte_active (hactive : d.active = true) : d'.active = true := by
  have hlead := observeLeadingSignature_active d (lowerASCII value) value hactive
  simp only [observeByte, hlead, if_true] at h
  cases h
  exact hlead

theorem observeByte_frame : d'.bomChecked = d.bomChecked ∧ d'.initialized = d.initialized := by
  have hframe := (observeLeadingSignature_frame d (lowerASCII value) value).2
  simp only [observeByte] at h
  split_ifs at h
  · cases h
    exact hframe
  · obtain ⟨hbom, hinitialized⟩ := observeTag_frame h
    exact ⟨hbom.trans hframe.1, hinitialized.trans hframe.2⟩

variable (hinactive : d'.active = false)
include hinactive

theorem observeByte_tag :
    ∃ d1 : ActiveTextDetector, d1.tagCandidate = d.tagCandidate ∧
      observeTag p ctx d1 value (lowerASCII value) n = .ok (d', n') := by
  have hframe := (observeLeadingSignature_frame d (lowerASCII value) value).1
  simp only [observeByte] at h
  split_ifs at h with hactive
  · cases h
    rw [hinactive] at hactive
    cases hactive
  · exact ⟨_, hframe, h⟩

/-- The candidate of a detector that stays inactive is the tag that is open. -/
theorem observeByte_nextTag : d'.tagCandidate = nextTag p d.tagCandidate value := by
  obtain ⟨d1, hd1, h⟩ := observeByte_tag h hinactive
  rw [← hd1]
  rw [observeTag] at h
  rw [nextTag]
  by_cases hclosed : d1.tagCandidate = []
  · rw [if_pos hclosed] at h
    rw [if_pos hclosed]
    by_cases hv : value = 0x3c
    · subst hv
      rw [if_neg (by simp)] at h
      cases h
      rfl
    · rw [if_pos hv] at h
      cases h
      rw [if_neg hv, hclosed]
  rw [if_neg hclosed] at h
  rw [if_neg hclosed]
  have hsecond : (d1.tagCandidate ++ [lowerASCII value]).length = 2 ↔
      d1.tagCandidate.length = 1 := by simp
  simp only [hsecond] at h
  split_ifs at h with hlong hblank hmarker hclose hincomplete hdropped
  · cases h
    cases hinactive
  · cases h
    rw [if_pos hblank]
    rfl
  · cases h
    cases hinactive
  · cases h
    cases hinactive
  · obtain ⟨-, n1, -, h⟩ := Tx.bind_eq_ok h
    rw [if_neg hblank, if_pos hclose]
    cases hcandidate : activeMarkupCandidate p (d1.tagCandidate ++ [lowerASCII value]) with
    | mk isActive complete =>
      simp only [hcandidate] at h
      cases isActive
      · cases complete
        · cases h
          rfl
        · cases h
          rfl
      · cases h
        cases hinactive
  · cases h
    rw [if_neg hblank, if_neg hclose, if_pos hdropped]
    rfl
  · cases h
    rw [if_neg hblank, if_neg hclose, if_neg hdropped]

/-- A candidate that has begun as a marker is kept while the marker goes on, and the whole marker
makes the detector active. -/
theorem observeByte_marker {rest : Bytes} (hm : m ∈ incompleteActiveMarkup)
    (hopen : d.tagCandidate ≠ []) (hmarker : d.tagCandidate ++ lowerASCII value :: rest = m) :
    d'.tagCandidate = d.tagCandidate ++ [lowerASCII value] ∧ d'.tagCandidate ≠ m := by
  obtain ⟨-, -, hlength, hclose, hsecond⟩ := marker_shape m hm
  obtain ⟨d1, hd1, h⟩ := observeByte_tag h hinactive
  rw [← hd1] at hopen hmarker ⊢
  have hshort : d1.tagCandidate.length < maxActiveTextTagBytes := by
    rw [← hmarker] at hlength
    simp only [length_append, length_cons] at hlength
    omega
  -- The conditions on the second byte are about the original byte, those on markers about the
  -- lowered one.
  have hkept : d1.tagCandidate.length = 1 →
      lowerASCII value ∉ whitespace ∧ (lowerASCII value = 0x2f ∨ lowerASCII value = 0x21 ∨
        lowerASCII value = 0x3f ∨ isASCIIAlpha (lowerASCII value) = true) := by
    intro hone
    refine hsecond (lowerASCII value) ?_
    rw [← hmarker, getElem?_append_right (by omega), hone]
    rfl
  have hnotClose : value ≠ 0x3e := by
    rintro rfl
    refine hclose ?_
    rw [← hmarker]
    exact mem_append_right _ (mem_cons_self)
  simp only [observeTag, if_neg hopen, if_neg (Nat.not_le.mpr hshort), length_append,
    length_singleton, if_neg hnotClose] at h
  split_ifs at h with hblank hwhole hdropped
  · have hone : d1.tagCandidate.length = 1 := by omega
    exact absurd (lowerASCII_of_whitespace hblank.2) (hkept hone).1
  · cases h
    cases hinactive
  · have hone : d1.tagCandidate.length = 1 := by omega
    obtain ⟨-, hslash, hbang, hquery, hletter⟩ := hdropped
    rcases (hkept hone).2 with hv | hv | hv | hv
    · exact absurd (eq_of_lowerASCII_eq (by decide) hv) hslash
    · exact absurd (eq_of_lowerASCII_eq (by decide) hv) hbang
    · exact absurd (eq_of_lowerASCII_eq (by decide) hv) hquery
    · rw [isASCIIAlpha_of_lowerASCII hv] at hletter
      cases hletter
  · cases h
    refine ⟨rfl, fun heq => hwhole ?_⟩
    rwa [← heq] at hm

end

variable {bytes : Bytes}

theorem observeBytes_active (hactive : d.active = true)
    (h : observeBytes p ctx d bytes n = .ok (d', n')) : d'.active = true := by
  induction bytes generalizing d n with
  | nil =>
    cases h
    exact hactive
  | cons b bytes ih =>
    obtain ⟨d1, n1, h1, h⟩ := Tx.bind_eq_ok h
    exact ih (observeByte_active h1 hactive) h

theorem observeBytes_frame (h : observeBytes p ctx d bytes n = .ok (d', n')) :
    d'.bomChecked = d.bomChecked ∧ d'.initialized = d.initialized := by
  induction bytes generalizing d n with
  | nil =>
    cases h
    exact ⟨rfl, rfl⟩
  | cons b bytes ih =>
    obtain ⟨d1, n1, h1, h⟩ := Tx.bind_eq_ok h
    exact ⟨(ih h).1.trans (observeByte_frame h1).1, (ih h).2.trans (observeByte_frame h1).2⟩

variable {held : Bytes}

theorem observeBytes_openTag (hinactive : d'.active = false)
    (h : observeBytes p ctx d bytes n = .ok (d', n')) :
    d'.tagCandidate = openTag p d.tagCandidate bytes := by
  induction bytes generalizing d n with
  | nil =>
    cases h
    rfl
  | cons value bytes ih =>
    rw [observeBytes] at h
    obtain ⟨d1, n1, h1, h⟩ := Tx.bind_eq_ok h
    have hinactive1 : d1.active = false := by
      by_contra hactive
      rw [observeBytes_active (by simpa using hactive) h] at hinactive
      cases hinactive
    rw [ih h, openTag, observeByte_nextTag h1 hinactive1]

theorem openTag_append (p : Parsers) (tag before after : Bytes) :
    openTag p tag (before ++ after) = openTag p (openTag p tag before) after := by
  induction before generalizing tag with
  | nil => rfl
  | cons value before ih => exact ih _

theorem openTag_closed (p : Parsers) (hheld : 0x3c ∉ held) : openTag p [] held = [] := by
  induction held with
  | nil => rfl
  | cons value held ih =>
    rw [mem_cons, not_or] at hheld
    rw [openTag, nextTag, if_pos rfl, if_neg (Ne.symm hheld.1), ih hheld.2]

/-! ## Reading a text -/

/-- Before the byte order mark is decided, the bytes of it are held back and no candidate is
open. -/
def Ready (d : ActiveTextDetector) : Prop :=
  d.bomChecked = false → d.tagCandidate = [] ∧ d.bom.isPrefixOf byteOrderMark = true

theorem not_mem_of_isPrefixOf (h : held.isPrefixOf byteOrderMark = true) : 0x3c ∉ held := by
  intro hmem
  have hprefix := isPrefixOf_iff_prefix.mp h
  have := hprefix.subset hmem
  revert this
  decide

theorem observeNext_ready (hready : Ready d) (h : observeNext p ctx d value n = .ok (d', n')) :
    Ready d' := by
  simp only [observeNext] at h
  split_ifs at h with hbom hheld hmark
  · cases h
    exact fun _ => ⟨(hready hbom).1, hheld.1⟩
  · cases h
    exact nofun
  · obtain ⟨d1, n1, h1, h⟩ := Tx.bind_eq_ok h
    cases h
    have hchecked : d1.bomChecked = true := (observeBytes_frame h1).1
    exact fun hfalse => by simp [hchecked] at hfalse
  · intro hfalse
    rw [(observeByte_frame h).1] at hfalse
    exact absurd hfalse hbom

theorem observeNext_initialized (h : observeNext p ctx d value n = .ok (d', n')) :
    d'.initialized = d.initialized := by
  simp only [observeNext] at h
  split_ifs at h
  · cases h
    rfl
  · cases h
    rfl
  · obtain ⟨d1, n1, h1, h⟩ := Tx.bind_eq_ok h
    cases h
    exact (observeBytes_frame h1).2
  · exact (observeByte_frame h).2

theorem observeNext_nextTag (hready : Ready d) (hinactive : d'.active = false)
    (h : observeNext p ctx d value n = .ok (d', n')) :
    d'.tagCandidate = nextTag p d.tagCandidate value := by
  have hmem : value ∈ d.bom ++ [value] := by simp
  have hother (hbom : d.bomChecked = false) (hheld : 0x3c ∉ d.bom ++ [value]) :
      d.tagCandidate = nextTag p d.tagCandidate value := by
    have hne : value ≠ 0x3c := fun heq => hheld (heq ▸ hmem)
    rw [(hready hbom).1, nextTag, if_pos rfl, if_neg hne]
  simp only [observeNext] at h
  split_ifs at h with hbom hheld hmark
  · cases h
    exact hother hbom (not_mem_of_isPrefixOf hheld.1)
  · cases h
    refine hother hbom ?_
    rw [hmark]
    decide
  · obtain ⟨d1, n1, h1, h⟩ := Tx.bind_eq_ok h
    cases h
    have hread := observeBytes_openTag (by exact hinactive) h1
    have hheld := not_mem_of_isPrefixOf (hready hbom).2
    dsimp only at hread ⊢
    rw [hread, openTag_append, (hready hbom).1, openTag_closed p hheld]
    rfl
  · exact observeByte_nextTag h hinactive

/-- A `<` decides the byte order mark. -/
theorem observeNext_checked (h : observeNext p ctx d 0x3c n = .ok (d', n')) :
    d'.bomChecked = true := by
  simp only [observeNext] at h
  have hmem : (0x3c : UInt8) ∈ d.bom ++ [0x3c] := by simp
  split_ifs at h with hbom hheld hmark
  · exact absurd hmem (not_mem_of_isPrefixOf hheld.1)
  · rw [hmark] at hmem
    exact absurd hmem (by decide)
  · obtain ⟨d1, n1, h1, h⟩ := Tx.bind_eq_ok h
    cases h
    exact (observeBytes_frame h1).1
  · rw [(observeByte_frame h).1]
    simpa using hbom

/-- One byte of the loop: a check of the context now and then, and the byte unless the detector is
active. -/
theorem observeFrom_cons (index : Nat) (d : ActiveTextDetector) (value : UInt8) (rest : Bytes) :
    observeFrom p ctx index d (value :: rest) =
      (if index % activeTextContextCheckBytes = 0 then ctxErr ctx else pure ⟨⟩) >>= fun _ =>
        if d.active then pure d
        else observeNext p ctx d value >>= fun d1 => observeFrom p ctx (index + 1) d1 rest := by
  rw [observeFrom]
  split_ifs <;> rfl

/-- Reading a text byte by byte, the detector being inactive before each of them. -/
inductive Reads (p : Parsers) : ActiveTextDetector → Bytes → ActiveTextDetector → Prop
  | nil (d : ActiveTextDetector) : Reads p d [] d
  | cons {d d₁ d' : ActiveTextDetector} {value : UInt8} {rest : Bytes} {n : Nat} :
      d.active = false → observeNext p background d value 0 = .ok (d₁, n) → Reads p d₁ rest d' →
      Reads p d (value :: rest) d'

namespace Reads

variable {content rest : Bytes}

theorem append {d1 : ActiveTextDetector} (h : Reads p d content d1) (h' : Reads p d1 rest d') :
    Reads p d (content ++ rest) d' := by
  induction h with
  | nil => exact h'
  | cons hactive hnext _ ih => exact .cons hactive hnext (ih h')

theorem split (h : Reads p d (content ++ rest) d') :
    ∃ d1, Reads p d content d1 ∧ Reads p d1 rest d' := by
  induction content generalizing d with
  | nil => exact ⟨d, .nil d, h⟩
  | cons value content ih =>
    cases h with
    | cons hactive hnext h =>
      obtain ⟨d1, h1, h2⟩ := ih h
      exact ⟨d1, .cons hactive hnext h1, h2⟩

variable (h : Reads p d content d')
include h

theorem ready (hready : Ready d) : Ready d' := by
  induction h with
  | nil => exact hready
  | cons _ hnext _ ih => exact ih (observeNext_ready hready hnext)

theorem initialized : d'.initialized = d.initialized := by
  induction h with
  | nil => rfl
  | cons _ hnext _ ih => rw [ih, observeNext_initialized hnext]

theorem inactive_before (hinactive : d'.active = false) : d.active = false := by
  cases h with
  | nil => exact hinactive
  | cons hactive _ _ => exact hactive

theorem openTag (hready : Ready d) (hinactive : d'.active = false) :
    d'.tagCandidate = Attachments.openTag p d.tagCandidate content := by
  induction h with
  | nil => rfl
  | cons _ hnext hreads ih =>
    rw [ih (observeNext_ready hready hnext) hinactive, Attachments.openTag,
      observeNext_nextTag hready (hreads.inactive_before hinactive) hnext]

theorem marker_open (hm : m ∈ incompleteActiveMarkup)
    (hchecked : d.bomChecked = true) (hopen : d.tagCandidate ≠ []) (hrest : d.tagCandidate ≠ m)
    (hmarker : d.tagCandidate ++ content.map lowerASCII = m) : d'.active = true := by
  -- The induction carries that the candidate is a proper beginning of the marker.
  induction h with
  | nil d => simp [hrest] at hmarker
  | @cons d d1 d' value rest k hactive hnext hreads ih =>
    by_contra hinactive
    have hinactive1 : d1.active = false := hreads.inactive_before (by simpa using hinactive)
    rw [observeNext, if_neg (by simp [hchecked])] at hnext
    rw [map_cons] at hmarker
    obtain ⟨hcandidate, hwhole⟩ := observeByte_marker hnext hinactive1 hm hopen hmarker
    refine hinactive (ih ?_ ?_ hwhole ?_)
    · rw [(observeByte_frame hnext).1, hchecked]
    · simp [hcandidate]
    · rw [hcandidate, append_assoc]
      exact hmarker

theorem marker_closed (hm : m ∈ incompleteActiveMarkup)
    (hready : Ready d) (hclosed : d.tagCandidate = []) (hmarker : content.map lowerASCII = m) :
    d'.active = true := by
  obtain ⟨hhead, hlong, -⟩ := marker_shape m hm
  cases h with
  | nil => simp [← hmarker] at hlong
  | @cons _ d1 _ value rest k hactive hnext hreads =>
    by_contra hinactive
    have hinactive1 : d1.active = false := hreads.inactive_before (by simpa using hinactive)
    obtain rfl : value = 0x3c := by
      rw [← hmarker] at hhead
      exact eq_of_lowerASCII_eq (by decide) (Option.some.inj hhead)
    have hchecked := observeNext_checked hnext
    have hcandidate : d1.tagCandidate = [0x3c] := by
      rw [observeNext_nextTag hready hinactive1 hnext, hclosed]
      rfl
    refine hinactive (hreads.marker_open hm hchecked (by simp [hcandidate]) ?_ ?_)
    · rintro hone
      rw [← hone, hcandidate] at hlong
      simp at hlong
    · rw [hcandidate, ← hmarker]
      rfl

end Reads

theorem reads_of_observeFrom {content : Bytes} {index : Nat} (hinactive : d'.active = false)
    (h : observeFrom p ctx index d content n = .ok (d', n')) : Reads p d content d' := by
  induction content generalizing index d n with
  | nil =>
    cases h
    exact .nil _
  | cons value rest ih =>
    rw [observeFrom_cons] at h
    obtain ⟨-, n1, -, h⟩ := Tx.bind_eq_ok h
    split_ifs at h with hactive
    · cases h
      rw [hinactive] at hactive
      cases hactive
    · obtain ⟨d1, n2, hnext, h⟩ := Tx.bind_eq_ok h
      obtain ⟨k, hnext⟩ := observeNext_agrees d value n1 d1 n2 hnext 0
      exact .cons (by simpa using hactive) hnext (ih h)

def started : ActiveTextDetector := { initialized := true, leading := true }

theorem ready_started : Ready started := fun _ => ⟨rfl, rfl⟩

theorem reads_of_observe {content : Bytes} (hinitialized : d.initialized = true)
    (hinactive : d'.active = false) (h : observe p (some ctx) d content n = .ok (d', n')) :
    Reads p d content d' := by
  simp only [observe, hinitialized] at h
  exact reads_of_observeFrom hinactive h

theorem observe_active {content : Bytes} (hactive : d.active = true)
    (h : observe p (some ctx) d content n = .ok (d', n')) : d'.active = true := by
  have hstart : (if d.initialized = false then { d with initialized := true, leading := true }
      else d : ActiveTextDetector).active = true := by
    split_ifs <;> exact hactive
  simp only [observe] at h
  cases content with
  | nil =>
    cases h
    exact hstart
  | cons value rest =>
    rw [observeFrom_cons] at h
    obtain ⟨-, n1, -, h⟩ := Tx.bind_eq_ok h
    rw [if_pos hstart] at h
    cases h
    exact hstart

variable {chunks : List Bytes}

theorem observeChunks_active (hactive : d.active = true)
    (h : observeChunks p (some ctx) d chunks n = .ok (d', n')) : d'.active = true := by
  induction chunks generalizing d n with
  | nil =>
    cases h
    exact hactive
  | cons chunk chunks ih =>
    obtain ⟨d1, n1, h1, h⟩ := Tx.bind_eq_ok h
    exact ih (observe_active hactive h1) h

theorem reads_of_observeChunks (hinitialized : d.initialized = true) (hinactive : d'.active = false)
    (h : observeChunks p (some ctx) d chunks n = .ok (d', n')) :
    Reads p d chunks.flatten d' := by
  induction chunks generalizing d n with
  | nil =>
    cases h
    exact .nil _
  | cons chunk chunks ih =>
    obtain ⟨d1, n1, h1, h⟩ := Tx.bind_eq_ok h
    have hinactive1 : d1.active = false := by
      by_contra hactive
      rw [observeChunks_active (by simpa using hactive) h] at hinactive
      cases hinactive
    have hreads := reads_of_observe hinitialized hinactive1 h1
    rw [flatten_cons]
    exact hreads.append (ih (hreads.initialized.trans hinitialized) h)

theorem reads_of_start (hinactive : d'.active = false) (hchunks : chunks ≠ [])
    (h : observeChunks p (some ctx) {} chunks n = .ok (d', n')) :
    Reads p started chunks.flatten d' := by
  cases chunks with
  | nil => exact absurd rfl hchunks
  | cons chunk chunks =>
    have hstarted : observeChunks p (some ctx) started (chunk :: chunks) n = .ok (d', n') := h
    exact reads_of_observeChunks rfl hinactive hstarted

end ActiveTextDetector

open ActiveTextDetector

/-- A marker in a text that was read to its end without becoming active stands inside an open tag. -/
theorem marker_missed {p : Parsers} {d' : ActiveTextDetector} {content : Bytes} {offset : Nat}
    (h : Reads p started content d') (hinactive : d'.active = false)
    (hm : m ∈ incompleteActiveMarkup) (hmarker : MarkerAt content m offset) :
    openTag p [] (content.take offset) ≠ [] := by
  obtain ⟨-, hlong, -⟩ := marker_shape m hm
  have hcut : content = content.take offset ++ ((content.drop offset).take m.length ++
      (content.drop offset).drop m.length) := by
    rw [take_append_drop, take_append_drop]
  rw [hcut] at h
  obtain ⟨d1, hbefore, h⟩ := h.split
  obtain ⟨d2, hread, hafter⟩ := h.split
  have hinactive2 : d2.active = false := hafter.inactive_before hinactive
  have hinactive1 : d1.active = false := hread.inactive_before hinactive2
  intro hclosed
  replace hclosed := (hbefore.openTag ready_started hinactive1).trans hclosed
  rw [hread.marker_closed hm (hbefore.ready ready_started) hclosed hmarker] at hinactive2
  cases hinactive2

/-- A text on which the detector ends inactive, fed in any chunks and under any context, is free of
markers exactly if no marker in it starts inside an open tag. -/
theorem inactive_text_free_of_markers (p : Parsers) (ctx : Context) (chunks : List Bytes)
    (d : ActiveTextDetector) (n : Nat) (h : observeChunks p (some ctx) {} chunks 0 = .ok (d, n))
    (hinactive : d.active = false) :
    (∀ m ∈ incompleteActiveMarkup, ∀ offset, ¬MarkerAt chunks.flatten m offset) ↔
      ∀ m ∈ incompleteActiveMarkup, ∀ offset, MarkerAt chunks.flatten m offset →
        openTag p [] (chunks.flatten.take offset) = [] := by
  constructor
  · intro hfree m hm offset hmarker
    exact absurd hmarker (hfree m hm offset)
  · intro hclosed m hm offset hmarker
    by_cases hchunks : chunks = []
    · obtain ⟨hhead, -⟩ := marker_shape m hm
      rw [← hmarker, hchunks] at hhead
      simp at hhead
    · exact marker_missed (reads_of_start hinactive hchunks h) hinactive hm hmarker
        (hclosed m hm offset hmarker)

def plainParsers : Parsers where
  next := fun _ => .other
  lookup := fun _ => false
  toLower := id
  parseRequestURI := fun _ => none

theorem inactive_text_free_of_markers_notes :
    ∃ d n, observeChunks plainParsers (some background) {} [ascii "1 <", ascii "2 <b"] 0 =
        .ok (d, n) ∧ d.active = false ∧
      ((∀ m ∈ incompleteActiveMarkup, ∀ offset,
          ¬MarkerAt [ascii "1 <", ascii "2 <b"].flatten m offset) ↔
        ∀ m ∈ incompleteActiveMarkup, ∀ offset,
          MarkerAt [ascii "1 <", ascii "2 <b"].flatten m offset →
          openTag plainParsers [] ([ascii "1 <", ascii "2 <b"].flatten.take offset) = []) :=
  ⟨_, _, rfl, rfl, inactive_text_free_of_markers plainParsers background _ _ _ rfl rfl⟩

/-- A `<` right after a `<` is dropped with the candidate, and one inside an unfinished tag is
swallowed by it, so a script tag after either is admitted whatever the parsers say. -/
theorem script_hidden_behind_candidate :
    MarkerAt (ascii "<<script>") (ascii "<script") 1 ∧
      MarkerAt (ascii "<x <script") (ascii "<script") 3 ∧ ∀ p : Parsers,
        looksLikeActiveText p (some background) (ascii "<<script>") 0 = .ok (false, 1) ∧
        looksLikeActiveText p (some background) (ascii "<x <script") 0 = .ok (false, 1) :=
  ⟨by decide, by decide, fun _ => ⟨rfl, rfl⟩⟩

end Houfeng.Attachments
