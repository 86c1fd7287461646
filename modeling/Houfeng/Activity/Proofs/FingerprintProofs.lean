import Houfeng.Activity.Fingerprint

/-!
# Fingerprints are injective

The bytes that are hashed determine the parts they are made of. Only an absent actor is written like
the beginning of something else: an actor without an id. Then a display name of one byte would shift
the rest by a byte, and the length of the title would be a multiple of `2 ^ 56`. The visibility of an
event is in neither hash, although every row stores its digest.
-/

namespace Houfeng.Activity.Fingerprint

open Framing Part

structure SubjectSnapshot.Held (s : SubjectSnapshot) : Prop where
  texts : ∀ t ∈ [s.kind, s.sourceID, s.role, s.liveRoute], t.utf8ByteSize < 2 ^ 48
  identity : ∀ e ∈ s.identity.entries, e.1.utf8ByteSize < 2 ^ 48 ∧ e.2.utf8ByteSize < 2 ^ 48
  length : s.identity.entries.length < 2 ^ 48

structure CandidateEvent.Held (c : CandidateEvent) : Prop where
  fits : ∀ p ∈ canonicalParts c ++ actorParts c.actor ++ presentationParts c, p.Fits
  subjects : ∀ s ∈ c.subjects, s.Held
  length : c.subjects.length < 2 ^ 48

theorem ofNat_inj {m n : Nat} (hm : m < 2 ^ 48) (hn : n < 2 ^ 48)
    (h : UInt64.ofNat m = UInt64.ofNat n) : m = n := by
  have := congrArg UInt64.toNat h
  rw [UInt64.toNat_ofNat', UInt64.toNat_ofNat'] at this
  omega

theorem toUInt64_injective : Function.Injective Int64.toUInt64 :=
  fun ⟨_⟩ ⟨_⟩ h => congrArg Int64.ofUInt64 h

variable {s t : SubjectSnapshot}

theorem subjectSnapshotBytes_injective (hs : s.Held) (ht : t.Held)
    (h : subjectSnapshotBytes s = subjectSnapshotBytes t) : s = t := by
  have hentry : Delimited
      (fun e : String × String => e.1.utf8ByteSize < 2 ^ 48 ∧ e.2.utf8ByteSize < 2 ^ 48)
      fun e => parts [.text e.1, .text e.2] := by
    intro e f he hf u v h
    obtain ⟨heq, huv⟩ := parts_delimited h rfl (by simpa [Fits] using he)
      (by simpa [Fits] using hf)
    simp only [List.cons.injEq, text.injEq] at heq
    exact ⟨Prod.ext heq.1 heq.2.1, huv⟩
  obtain ⟨hparts, hentries⟩ := parts_delimited h rfl (by simpa [Fits] using hs.texts)
    (by simpa [Fits] using ht.texts)
  simp only [List.cons.injEq, text.injEq, flag.injEq, word.injEq] at hparts
  obtain ⟨hkind, hsource, hrole, hroute, hprimary, htombstoned, hlength, -⟩ := hparts
  obtain ⟨hidentity, -⟩ := flatMap_delimited hentry hs.identity ht.identity
    (ofNat_inj hs.length ht.length hlength) (congrArg (· ++ []) hentries)
  obtain ⟨_, _, _, _, ⟨_, _⟩, _, _⟩ := s
  obtain ⟨_, _, _, _, ⟨_, _⟩, _, _⟩ := t
  simp only at hkind hsource hrole hroute hprimary htombstoned hidentity
  subst hkind hsource hrole hroute hprimary htombstoned hidentity
  rfl

variable {u v : Bytes}

/-- A word that begins like the word 1 shifted by a byte is too large for a length, or 0. -/
theorem shifted_eq_zero {n : Nat} {x : UInt8} (hn : n < 2 ^ 48)
    (h : bigEndian 8 n ++ u = x :: (bigEndian 8 1 ++ v)) : n = 0 := by
  simp only [bigEndian, List.nil_append, List.cons_append, List.cons.injEq] at h
  obtain ⟨-, -, h5, h4, h3, h2, h1, h0, -⟩ := h
  have hbyte {m : Nat} (h : UInt8.ofNat m = 0) : m % 256 = 0 := by
    simpa using congrArg UInt8.toNat h
  have := hbyte h5
  have := hbyte h4
  have := hbyte h3
  have := hbyte h2
  have := hbyte h1
  have := hbyte h0
  omega

theorem absent_actor_ne {actor : ActorSnapshot} (hactor : ∀ p ∈ actorParts actor, p.Fits)
    {title : String} (hsize : title.utf8ByteSize < 2 ^ 48) (htitle : title ≠ "")
    {l m : List Part} :
    parts (actorParts none) ++ (parts (.word 1 :: .text title :: l) ++ u) ≠
      parts (actorParts actor) ++ (parts (.word 1 :: m) ++ v) := by
  intro h
  simp only [actorParts, List.forall_mem_cons, Fits] at hactor
  simp only [parts, actorParts, List.flatMap_cons, List.flatMap_nil, encode,
    List.append_assoc, List.nil_append] at h
  obtain ⟨hzero, h⟩ := bigEndian_delimited 8 _ _ (by decide) (hactor.1.trans (by decide)) _ _ h
  have hid : actor.actorID.toByteArray.data.toList = [] :=
    List.length_eq_zero_iff.mp (by simpa using hzero.symm)
  rw [hid, List.nil_append] at h
  obtain ⟨hone, h⟩ := bigEndian_delimited 8 _ _ (by decide) (hactor.2.1.trans (by decide)) _ _ h
  obtain ⟨x, hx⟩ : ∃ x, actor.displayName.toByteArray.data.toList = [x] :=
    List.length_eq_one_iff.mp (by simpa using hone.symm)
  rw [hx] at h
  exact htitle (String.utf8ByteSize_eq_zero_iff.mp (shifted_eq_zero hsize h))

structure Presentation.Titled (p : Presentation) : Prop where
  version : p.version = 1
  title : p.title ≠ ""

theorem titled_of_validateCandidate {rules : Rules} {hash : Hash} {kind : String}
    {window : ScanWindow} {c : CandidateEvent} {canonicalHash : Vector UInt8 32}
    (h : validateCandidate rules hash kind window c canonicalHash = .ok ()) :
    c.presentation.Titled := by
  obtain ⟨_, -, h⟩ := except_bind_eq_ok h
  obtain ⟨_, -, h⟩ := except_bind_eq_ok h
  obtain ⟨_, -, h⟩ := except_bind_eq_ok h
  obtain ⟨_, hvalid, -⟩ := except_bind_eq_ok h
  have hvalid := ensure_eq_ok hvalid
  simp only [Presentation.valid, Bool.and_eq_true, decide_eq_true_eq] at hvalid
  refine ⟨hvalid.1.1.1, fun htitle => hvalid.1.1.2 ?_⟩
  rw [htitle]
  rfl

theorem actor_delimited {a b : CandidateEvent} (ha : a.Held) (hb : b.Held)
    (hpa : a.presentation.Titled) (hpb : b.presentation.Titled)
    (h : parts (actorParts a.actor) ++ (parts (presentationParts a) ++ u) =
      parts (actorParts b.actor) ++ (parts (presentationParts b) ++ v)) :
    a.actor = b.actor ∧ parts (presentationParts a) ++ u = parts (presentationParts b) ++ v := by
  have hfa := List.forall_mem_append.mp (List.forall_mem_append.mp ha.fits).1
  have hfb := List.forall_mem_append.mp (List.forall_mem_append.mp hb.fits).1
  have hta : a.presentation.title.utf8ByteSize < 2 ^ 48 :=
    ha.fits (.text a.presentation.title) (by simp [presentationParts])
  have htb : b.presentation.title.utf8ByteSize < 2 ^ 48 :=
    hb.fits (.text b.presentation.title) (by simp [presentationParts])
  cases hactor : a.actor with
  | none =>
    cases hactor' : b.actor with
    | none =>
      rw [hactor, hactor'] at h
      exact ⟨rfl, List.append_cancel_left h⟩
    | some actor =>
      rw [hactor, hactor', presentationParts, presentationParts, hpa.version, hpb.version] at h
      exact absurd h (absent_actor_ne (hactor' ▸ hfb.2) hta hpa.title)
  | some actor =>
    cases hactor' : b.actor with
    | none =>
      rw [hactor, hactor', presentationParts, presentationParts, hpa.version, hpb.version] at h
      exact absurd h.symm (absent_actor_ne (hactor ▸ hfa.2) htb hpb.title)
    | some actor' =>
      rw [hactor, hactor'] at h
      obtain ⟨heq, hrest⟩ := parts_delimited h rfl (hactor ▸ hfa.2) (hactor' ▸ hfb.2)
      obtain ⟨id, name⟩ := actor
      obtain ⟨id', name'⟩ := actor'
      simp only [actorParts, List.cons.injEq, text.injEq] at heq
      exact ⟨by rw [heq.1, heq.2.1], hrest⟩

/-- What is hashed for a candidate. -/
def hashed (hash : Hash) (c : CandidateEvent) : Set Bytes :=
  {bytes | bytes = canonicalBytes hash c ∨ bytes = c.visibility ∨
    ∃ s ∈ c.subjects, bytes = subjectSnapshotBytes s ∨ bytes = relationBytes hash c s}

section Injective

variable {hash : Hash} {a b : CandidateEvent} (ha : a.Held) (hb : b.Held)
  (hinj : Set.InjOn hash (hashed hash a ∪ hashed hash b))
include ha hb hinj

theorem subject_of_hash (hs : s ∈ a.subjects ∨ s ∈ b.subjects)
    (ht : t ∈ a.subjects ∨ t ∈ b.subjects)
    (h : (hash (subjectSnapshotBytes s)).toList = (hash (subjectSnapshotBytes t)).toList) :
    s = t := by
  have hmem {r : SubjectSnapshot} (hr : r ∈ a.subjects ∨ r ∈ b.subjects) :
      r.Held ∧ subjectSnapshotBytes r ∈ hashed hash a ∪ hashed hash b := by
    cases hr with
    | inl hr => exact ⟨ha.subjects r hr, .inl (.inr (.inr ⟨r, hr, .inl rfl⟩))⟩
    | inr hr => exact ⟨hb.subjects r hr, .inr (.inr (.inr ⟨r, hr, .inl rfl⟩))⟩
  exact subjectSnapshotBytes_injective (hmem hs).1 (hmem ht).1
    (hinj (hmem hs).2 (hmem ht).2 (Vector.toList_inj.mp h))

theorem canonicalBytes_injective (hpa : a.presentation.Titled) (hpb : b.presentation.Titled)
    (h : canonicalBytes hash a = canonicalBytes hash b) : { a with visibility := b.visibility } = b := by
  have hfa := List.forall_mem_append.mp ha.fits
  have hfb := List.forall_mem_append.mp hb.fits
  obtain ⟨hcanonical, h⟩ := parts_delimited (List.append_cancel_left h) rfl
    (List.forall_mem_append.mp hfa.1).1 (List.forall_mem_append.mp hfb.1).1
  obtain ⟨hactor, h⟩ := actor_delimited ha hb hpa hpb h
  obtain ⟨hpresentation, h⟩ := parts_delimited h rfl hfa.2 hfb.2
  simp only [canonicalParts, List.cons.injEq, text.injEq, word.injEq, flag.injEq,
    toUInt64_injective.eq_iff, and_true] at hcanonical
  simp only [presentationParts, List.cons.injEq, text.injEq, word.injEq, and_true]
    at hpresentation
  have hsubject : Delimited (fun s => s ∈ a.subjects ∨ s ∈ b.subjects)
      fun s => (hash (subjectSnapshotBytes s)).toList := by
    intro s t hs ht u v h
    obtain ⟨hst, huv⟩ := List.append_inj h (by simp)
    exact ⟨subject_of_hash ha hb hinj hs ht hst, huv⟩
  obtain ⟨hsubjects, -⟩ := flatMap_delimited hsubject (fun s => .inl) (fun s => .inr)
    (ofNat_inj ha.length hb.length hpresentation.2.2.2) (congrArg (· ++ []) h)
  obtain ⟨_, ⟨_, _, _⟩, _, _, _, _, _, _, ⟨_, _, _⟩, _, _, _, _, _, _, _, _⟩ := a
  obtain ⟨_, ⟨_, _, _⟩, _, _, _, _, _, _, ⟨_, _, _⟩, _, _, _, _, _, _, _, _⟩ := b
  simp only at hcanonical hactor hpresentation hsubjects
  simp only [CandidateEvent.mk.injEq, SourceIdentity.mk.injEq, Presentation.mk.injEq]
  tauto

theorem relationBytes_injective (hs : s ∈ a.subjects) (ht : t ∈ b.subjects)
    (h : relationBytes hash a s = relationBytes hash b t) :
    s = t ∧ relationParts a = relationParts b := by
  have hfits {c : CandidateEvent} (hc : c.Held) : ∀ p ∈ relationParts c, p.Fits := by
    intro p hp
    refine hc.fits p (List.mem_append_left _ (List.mem_append_left _ ?_))
    simp only [relationParts, canonicalParts, List.mem_cons] at hp ⊢
    tauto
  obtain ⟨hparts, h⟩ := parts_delimited (List.append_cancel_left h) rfl (hfits ha) (hfits hb)
  exact ⟨subject_of_hash ha hb hinj (.inl hs) (.inr ht) h, hparts⟩

end Injective

/-- Without a collision among what is hashed for two accepted candidates, the canonical hash determines
everything but the visibility, and the relation hash every column of the relation but its digest;
that column agrees exactly if the visibility does. -/
theorem fingerprints_injective {rules : Rules} {hash : Hash} {a b : CandidateEvent}
    {kind kind' : String} {window window' : ScanWindow} {claimed claimed' : Vector UInt8 32}
    (haaccepted : validateCandidate rules hash kind window a claimed = .ok ())
    (hbaccepted : validateCandidate rules hash kind' window' b claimed' = .ok ())
    (ha : a.Held) (hb : b.Held) (hinj : Set.InjOn hash (hashed hash a ∪ hashed hash b)) :
    (computeCanonicalHash hash a = computeCanonicalHash hash b →
        { a with visibility := b.visibility } = b) ∧
      ∀ s ∈ a.subjects, ∀ t ∈ b.subjects, relationHash hash a s = relationHash hash b t →
        { relationRow hash a s with authScopeDigest := authScopeDigest hash b } =
            relationRow hash b t ∧
          (relationRow hash a s = relationRow hash b t ↔ a.visibility = b.visibility) := by
  constructor
  · intro h
    exact canonicalBytes_injective ha hb hinj (titled_of_validateCandidate haaccepted)
      (titled_of_validateCandidate hbaccepted) (hinj (.inl (.inl rfl)) (.inr (.inl rfl)) h)
  · intro s hs t ht h
    obtain ⟨hst, hparts⟩ := relationBytes_injective ha hb hinj hs ht
      (hinj (.inl (.inr (.inr ⟨s, hs, .inr rfl⟩))) (.inr (.inr (.inr ⟨t, ht, .inr rfl⟩))) h)
    simp only [relationParts, List.cons.injEq, text.injEq, word.injEq,
      toUInt64_injective.eq_iff, and_true] at hparts
    have hcolumns : { relationRow hash a s with authScopeDigest := authScopeDigest hash b } =
        relationRow hash b t := by
      simp only [relationRow, hst, hparts]
    refine ⟨hcolumns, fun hrow => ?_, fun hvisibility => ?_⟩
    · exact hinj (.inl (.inr (.inl rfl))) (.inr (.inr (.inl rfl)))
        (congrArg RelationRow.authScopeDigest hrow)
    · rw [← hcolumns, authScopeDigest, ← hvisibility]
      rfl

def sampleRules : Rules := ⟨fun _ => true, fun _ => true, fun _ => true, fun _ _ => some "a"⟩

def sampleSubject : SubjectSnapshot := ⟨"vps", "v", "subject", true, ⟨[("zone", "a")], List.pairwise_singleton _ _⟩, "",
  false⟩

def sampleCandidate (actor : Option ActorSnapshot) (visibility : Bytes) : CandidateEvent where
  activityID := "a"
  source := ⟨"agent", "e", 1⟩
  eventKind := "restart"
  eventAt := 1
  recordedAt := 2
  backfilled := false
  actor := actor
  subjects := [sampleSubject]
  presentation := ⟨1, "Restarted", ""⟩
  corrects := ""
  severity := ""
  recordID := ""
  revisionID := ""
  evidenceID := ""
  revisionNo := 0
  opensRevision := false
  visibility := visibility

def lengthHash : Hash := fun bytes => Vector.replicate 32 (UInt8.ofNat bytes.length)

theorem sampleCandidate_held (actor : Option ActorSnapshot)
    (hactor : ∀ p ∈ actorParts actor, p.Fits) : (sampleCandidate actor []).Held where
  fits := by
    refine List.forall_mem_append.mpr ⟨List.forall_mem_append.mpr ⟨?_, hactor⟩, ?_⟩ <;>
    simp only [canonicalParts, presentationParts, sampleCandidate, List.forall_mem_cons,
      List.not_mem_nil, false_imp_iff, implies_true, Fits] <;>
    decide
  subjects s hs := by
    rw [List.mem_singleton.mp hs]
    exact ⟨by decide, by simp [sampleSubject]; decide, by decide⟩
  length := by simp [sampleCandidate]

theorem hashed_sampleCandidate {actor : Option ActorSnapshot} {bytes : Bytes}
    (h : bytes ∈ hashed lengthHash (sampleCandidate actor [])) :
    bytes = canonicalBytes lengthHash (sampleCandidate actor []) ∨ bytes = [] ∨
      bytes = subjectSnapshotBytes sampleSubject ∨
      bytes = relationBytes lengthHash (sampleCandidate none []) sampleSubject := by
  obtain h | h | ⟨s, hs, h⟩ := h
  · exact .inl h
  · exact .inr (.inl h)
  · rw [List.mem_singleton.mp hs] at h
    exact .inr (.inr h)

theorem sampleCandidate_accepted (actor : Option ActorSnapshot) (visibility : Bytes) :
    validateCandidate sampleRules lengthHash "agent" ⟨zeroTime, zeroTime, ""⟩
      (sampleCandidate actor visibility)
      (computeCanonicalHash lengthHash (sampleCandidate actor visibility)) = .ok () := by
  have hvalid : Presentation.valid ⟨1, "Restarted", ""⟩ = true := by decide
  have htimes : (1 : Int64) ≠ zeroTime ∧ (2 : Int64) ≠ zeroTime := by decide
  simp [validateCandidate, ensure, sampleCandidate, sampleRules, ScanWindow.contains, hvalid, htimes]
  rfl

/-- An absent actor and an actor without an id. -/
theorem fingerprints_injective_absent :
    computeCanonicalHash lengthHash (sampleCandidate none []) ≠
      computeCanonicalHash lengthHash (sampleCandidate (some ⟨"", "x"⟩) []) := by
  intro h
  have hname : ∀ p ∈ actorParts (some ⟨"", "x"⟩), p.Fits := by
    simp only [actorParts, List.forall_mem_cons, List.not_mem_nil, false_imp_iff, implies_true,
      Fits]
    decide
  have hactor := (fingerprints_injective (sampleCandidate_accepted none [])
    (sampleCandidate_accepted (some ⟨"", "x"⟩) [])
    (sampleCandidate_held _ (by simp [actorParts, Fits]))
    (sampleCandidate_held _ hname) ?_).1 h
  · cases congrArg CandidateEvent.actor hactor
  · intro x hx y hy hxy
    have hx := hx.imp hashed_sampleCandidate hashed_sampleCandidate
    have hy := hy.imp hashed_sampleCandidate hashed_sampleCandidate
    rcases hx with (rfl | rfl | rfl | rfl) | (rfl | rfl | rfl | rfl) <;>
    rcases hy with (rfl | rfl | rfl | rfl) | (rfl | rfl | rfl | rfl) <;>
    first | rfl | exact absurd hxy (by decide +kernel)

/-- Two accepted candidates that differ only in who may see them have the same hashes, and rows with
different digests. -/
theorem visibility_not_fingerprinted :
    validateCandidate sampleRules lengthHash "agent" ⟨zeroTime, zeroTime, ""⟩ (sampleCandidate none [])
        (computeCanonicalHash lengthHash (sampleCandidate none [])) = .ok () ∧
      validateCandidate sampleRules lengthHash "agent" ⟨zeroTime, zeroTime, ""⟩
        (sampleCandidate none [1]) (computeCanonicalHash lengthHash (sampleCandidate none [1])) =
          .ok () ∧
      computeCanonicalHash lengthHash (sampleCandidate none []) =
        computeCanonicalHash lengthHash (sampleCandidate none [1]) ∧
      relationHash lengthHash (sampleCandidate none []) sampleSubject =
        relationHash lengthHash (sampleCandidate none [1]) sampleSubject ∧
      relationRow lengthHash (sampleCandidate none []) sampleSubject ≠
        relationRow lengthHash (sampleCandidate none [1]) sampleSubject :=
  ⟨sampleCandidate_accepted .., sampleCandidate_accepted .., rfl, rfl, fun h =>
    absurd (congrArg RelationRow.authScopeDigest h) (by decide)⟩

end Houfeng.Activity.Fingerprint
