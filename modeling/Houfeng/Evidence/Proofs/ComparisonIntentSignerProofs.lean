import Houfeng.AgentApi.Proofs.EncodingProofs
import Houfeng.Evidence.ComparisonIntentSigner
import Houfeng.Foundation.Sha256

/-!
# Proofs: comparison-intent tokens

A token verifies whenever its parts do. They are found by splitting at dots, and a key id may
contain one. A token that verifies is one that was issued, up to the freedom the base64 decoder
leaves.
-/

namespace Houfeng.Evidence

open AgentApi List Option Json FileComparisonIntentSigner

/-! ## Claims come back from their payload -/

variable (x : ComparisonIntentClaims)

section Fields

variable {c : Json → Json} [Coding c]

@[simp] theorem readInt_omitZero (n : Int) : readInt ((omitZero n).map c) = some n := by
  rw [omitZero]
  split_ifs with h
  · rw [h]
    rfl
  · exact readInt_writeInt n

def ComparisonIntentItem.decoded (x : ComparisonIntentItem) : ComparisonIntentItem :=
  { x with chosenSnapshotIDs := x.chosenSnapshotIDs.collapse }

theorem decode_encodeIntentItem (x : ComparisonIntentItem) :
    decodeIntentItem (c (encodeIntentItem x)) = some x.decoded := by
  have htext : ∀ s : String, readText (c (str s)) = some (id s) := readText_str
  simp [-bind_eq_bind, some_bind, decodeIntentItem, encodeIntentItem, intentItemFields, field,
    readSlice_omitSlice (c := c) htext, ComparisonIntentItem.decoded]

def ComparisonIntentClaims.decoded : ComparisonIntentClaims :=
  { x with
    items := x.items.map (List.map ComparisonIntentItem.decoded)
    issuedAt := 0
    expiresAt := 0 }

theorem decode_encodeIntentClaims :
    decodeIntentClaims (c (encodeIntentClaims x)) = some x.decoded := by
  simp [-bind_eq_bind, some_bind, decodeIntentClaims, encodeIntentClaims, intentClaimsFields, field,
    readSlice_writeSlice (c := c) decode_encodeIntentItem, ComparisonIntentClaims.decoded]

end Fields

theorem numbersValid_omitStr (s : String) : (omitStr s).all numbersValid = true := by
  rw [omitStr]
  split_ifs <;> rfl

theorem numbersValid_encodeIntentItem (x : ComparisonIntentItem) :
    numbersValid (encodeIntentItem x) = true := by
  have htexts : numbersValidItems (x.chosenSnapshotIDs.items.map str) = true :=
    numbersValidItems_map (fun _ => rfl) _
  have hslice : (omitSlice str x.chosenSnapshotIDs).all numbersValid = true := by
    rw [omitSlice]
    split_ifs
    · rfl
    · exact htexts
  rw [encodeIntentItem, numbersValid_ofFields]
  simp [intentItemFields, numbersValid_omitStr, hslice, writeStr, numbersValid]

theorem numbersValid_encodeIntentClaims : numbersValid (encodeIntentClaims x) = true := by
  have hint : ∀ n : Int, numbersValid (.num (toString n)) = true := fun n => by
    rw [numbersValid, validNumber_toString]
  have hzero : (omitZero x.detailSchemaVersion).all numbersValid = true := by
    rw [omitZero]
    split_ifs
    · rfl
    · exact hint _
  have hbucket : (omitInt x.bucketSeconds).all numbersValid = true := by
    cases x.bucketSeconds with
    | none => rfl
    | some n => exact hint n
  have hitems : (writeSlice encodeIntentItem x.items).all numbersValid = true := by
    cases x.items with
    | none => rfl
    | some items => exact numbersValidItems_map numbersValid_encodeIntentItem items
  rw [encodeIntentClaims, numbersValid_ofFields]
  simp only [intentClaimsFields, all_cons, all_nil, numbersValid_omitStr, hzero, hbucket,
    hitems, writeStr, writeInt, all_some, validNumber_toString, numbersValid,
    Bool.and_self]

theorem fromUTF8?_toUTF8 (s : String) :
    String.fromUTF8? ⟨s.toUTF8.data.toList.toArray⟩ = some s := by
  rw [Array.toArray_toList]
  simp [String.fromUTF8?, String.fromUTF8, s.isValidUTF8]

variable {text : String} {claims : ComparisonIntentClaims}

theorem unmarshalClaims_of_read {payload : List UInt8} {j : Json}
    (htext : String.fromUTF8? ⟨payload.toArray⟩ = some text) (hread : read text = some j)
    (hdecode : decodeIntentClaims j = some claims) :
    unmarshalClaims payload = some claims := by
  simp only [unmarshalClaims, htext, hread, hdecode, bind_eq_bind, bind_some]

theorem unmarshal_marshalClaims (claims : ComparisonIntentClaims) :
    unmarshalClaims (marshalClaims claims) = some claims.decoded :=
  unmarshalClaims_of_read (fromUTF8?_toUTF8 _)
    (read_text (numbersValid_encodeIntentClaims claims))
    (decode_encodeIntentClaims (c := id) claims)

/-! ## The parts of a token -/

theorem not_mem_dot_encode (bytes : List UInt8) : '.' ∉ Base64.encode Base64.url bytes := by
  intro h
  obtain ⟨n, hn, hdot⟩ := Base64.exists_of_mem_encode Base64.url h
  have hchars : ∀ n < 64, '.' ≠ Base64.url.char n := by decide
  exact hchars n hn hdot

theorem splitOn_intentToken (keyID : String) (payload sum : List UInt8) :
    (intentToken keyID payload sum).splitOn '.' =
      ['c', 'm', 'p', '1'] :: (keyID.toList.splitOn '.' ++
        [Base64.encode Base64.url payload, Base64.encode Base64.url sum]) := by
  have hversion : ['c', 'm', 'p', '1'].splitOn '.' = [['c', 'm', 'p', '1']] := by decide
  rw [intentToken, splitOn_append_cons_self, splitOn_append_cons_self,
    splitOn_append_cons_self, hversion, splitOn_eq_singleton (not_mem_dot_encode payload),
    splitOn_eq_singleton (not_mem_dot_encode sum)]
  simp

theorem two_le_length_splitOn {cs : List Char} (h : '.' ∈ cs) : 2 ≤ (cs.splitOn '.').length := by
  obtain ⟨front, back, rfl⟩ := append_of_mem h
  have hfront := length_pos_iff.mpr (splitOn_ne_nil '.' front)
  have hback := length_pos_iff.mpr (splitOn_ne_nil '.' back)
  rw [splitOn_append_cons_self, length_append]
  omega

variable {keyID : String} {payload sum : List UInt8}

theorem splitOn_intentToken_eq (h : '.' ∉ keyID.toList) :
    (intentToken keyID payload sum).splitOn '.' =
      [['c', 'm', 'p', '1'], keyID.toList, Base64.encode Base64.url payload,
        Base64.encode Base64.url sum] := by
  rw [splitOn_intentToken, splitOn_eq_singleton h]
  rfl

variable {p q : List Char}

theorem not_mem_dot_of_splitOn {v i : List Char}
    (h : (intentToken keyID payload sum).splitOn '.' = [v, i, p, q]) :
    '.' ∉ keyID.toList := by
  intro hdot
  have hlength := congrArg List.length h
  have htwo := two_le_length_splitOn hdot
  rw [splitOn_intentToken, length_cons, length_append] at hlength
  simp only [length_cons, length_nil] at hlength
  omega

/-! ## Signing and verifying -/

variable {lib : IntentServices} {signer : FileComparisonIntentSigner}

def FileComparisonIntentSigner.stamp (signer : FileComparisonIntentSigner)
    (claims : ComparisonIntentClaims) : ComparisonIntentClaims :=
  { claims with keyID := signer.currentID }

def FileComparisonIntentSigner.tokenOf (lib : IntentServices) (signer : FileComparisonIntentSigner)
    (key : List UInt8) (claims : ComparisonIntentClaims) : String :=
  String.ofList (intentToken signer.currentID (marshalClaims (signer.stamp claims))
    (lib.mac key (marshalClaims (signer.stamp claims))))

variable {key : List UInt8}

theorem sign_eq (hkey : signer.keys.lookup signer.currentID = some key) :
    signer.sign lib claims =
      if claims.purpose = comparisonIntentPurpose ∧
          (claims.keyID = "" ∨ claims.keyID = signer.currentID) then
        .ok
          { token := signer.tokenOf lib key claims
            keyID := signer.currentID
            issuedAt := claims.issuedAt
            expiresAt := claims.expiresAt }
      else .error .invalid := by
  rw [sign]
  by_cases hpurpose : claims.purpose = comparisonIntentPurpose
  · by_cases hempty : claims.keyID = ""
    · simp [hpurpose, hempty, hkey, tokenOf, stamp]
    · by_cases hid : claims.keyID = signer.currentID
      · have hstamp : signer.stamp claims = claims := by
          rw [stamp, ← hid]
        have hne : signer.currentID ≠ "" := hid ▸ hempty
        simp [hpurpose, hid, hne, hkey, tokenOf, hstamp]
      · simp [hpurpose, hempty, hid]
  · simp [hpurpose]

variable {intent : ComparisonIntent}

theorem token_of_sign (h : signer.sign lib claims = .ok intent) :
    ∃ key, signer.keys.lookup signer.currentID = some key ∧
      intent.token = signer.tokenOf lib key claims := by
  obtain ⟨key, hkey⟩ := isSome_iff_exists.mp signer.current
  rw [sign_eq hkey] at h
  split_ifs at h
  cases h
  exact ⟨key, hkey, rfl⟩

theorem mem_of_lookup {keys : List (String × List UInt8)}
    (h : keys.lookup keyID = some key) : (keyID, key) ∈ keys := by
  induction keys with
  | nil => cases h
  | cons entry rest ih =>
    obtain ⟨k, v⟩ := entry
    rw [List.lookup_cons] at h
    split at h
    · rename_i heq
      rw [beq_iff_eq.mp heq, some.inj h]
      exact mem_cons_self
    · exact mem_cons_of_mem _ (ih h)

variable {token : String} {now : Time}

theorem verify_eq_ok (h : signer.verify lib token now = .ok claims) :
    ∃ keyID p q key payload, token.toList.splitOn '.' = [['c', 'm', 'p', '1'], keyID, p, q] ∧
      signer.keys.lookup (String.ofList keyID) = some key ∧
      Base64.decode Base64.url p = some payload ∧
      Base64.decode Base64.url q = some (lib.mac key payload) ∧
      ∃ read, unmarshalClaims payload = some read ∧ read.keyID = String.ofList keyID := by
  rw [verify] at h
  generalize token.toList.splitOn '.' = parts at h
  unfold verifyParts at h
  split at h
  case h_2 => cases h
  case h_1 version keyID p q =>
    split_ifs at h with hversion
    rw [not_or, not_not] at hversion
    split at h
    · cases h
    rename_i key hkey
    split at h
    case h_2 => cases h
    case h_1 payload sum hp hq =>
      split_ifs at h with hsum
      rw [verifyClaims] at h
      split at h
      · cases h
      rename_i read hread
      split_ifs at h with hread'
      rw [not_or, not_not, not_not] at hread'
      refine ⟨keyID, p, q, key, payload, by rw [hversion.1], hkey, hp, ?_, read, hread, hread'.2⟩
      rw [hq, not_not.mp hsum]

/-- Claims a signer signs, whose texts are those of their instants. -/
structure ValidClaims (lib : IntentServices) (signer : FileComparisonIntentSigner)
    (claims : ComparisonIntentClaims) : Prop where
  purpose : claims.purpose = comparisonIntentPurpose
  keyID : claims.keyID = "" ∨ claims.keyID = signer.currentID
  issued : lib.parseTime claims.issuedAtText = some claims.issuedAt
  expires : lib.parseTime claims.expiresAtText = some claims.expiresAt
  chosen : ∀ item ∈ claims.items.items, item.decoded = item

theorem decoded_stamp (h : ∀ item ∈ claims.items.items, item.decoded = item) :
    { (signer.stamp claims).decoded with
      issuedAt := claims.issuedAt, expiresAt := claims.expiresAt } = signer.stamp claims := by
  have hitems : claims.items.map (List.map ComparisonIntentItem.decoded) = claims.items := by
    cases hc : claims.items with
    | none => rfl
    | some items =>
      rw [hc] at h
      have hmap : items.map ComparisonIntentItem.decoded = items.map id := map_congr_left h
      rw [map_some, hmap, List.map_id]
  simp [ComparisonIntentClaims.decoded, stamp, hitems]

/-- The current id is one of the ring's, so it is valid. -/
theorem valid_currentID (hkey : signer.keys.lookup signer.currentID = some key) :
    validComparisonKeyID signer.currentID = true :=
  signer.valid _ (mem_of_lookup hkey)

theorem verifyClaims_stamp (h : ValidClaims lib signer claims) (hnow : now < claims.expiresAt) :
    verifyClaims lib signer.currentID (marshalClaims (signer.stamp claims)) now =
      .ok (signer.stamp claims) := by
  have hchecks : ¬((signer.stamp claims).decoded.purpose ≠ comparisonIntentPurpose ∨
      (signer.stamp claims).decoded.keyID ≠ signer.currentID) :=
    fun hfail => hfail.elim (· h.purpose) (· rfl)
  have hissued : lib.parseTime (signer.stamp claims).decoded.issuedAtText =
    some claims.issuedAt := h.issued
  have hexpires : lib.parseTime (signer.stamp claims).decoded.expiresAtText =
    some claims.expiresAt := h.expires
  rw [verifyClaims, unmarshal_marshalClaims]
  simp only [if_neg hchecks, hissued, hexpires, if_pos hnow]
  rw [decoded_stamp h.chosen]

theorem verify_tokenOf (hkey : signer.keys.lookup signer.currentID = some key)
    (hdot : '.' ∉ signer.currentID.toList) (h : ValidClaims lib signer claims)
    (hnow : now < claims.expiresAt) :
    signer.verify lib (signer.tokenOf lib key claims) now = .ok (signer.stamp claims) := by
  rw [verify, tokenOf, String.toList_ofList,
    splitOn_intentToken_eq hdot, verifyParts, String.ofList_toList,
    if_neg (by simp [valid_currentID hkey]), hkey]
  simp only [Base64.decode_encode, ne_eq, not_true_eq_false, if_false]
  exact verifyClaims_stamp h hnow

/-! ## Issued tokens -/

/-- What a signer signs verifies until it expires, and gives the claims back. -/
def FileComparisonIntentSigner.RoundTrips (lib : IntentServices)
    (signer : FileComparisonIntentSigner) : Prop :=
  ∀ claims now, ValidClaims lib signer claims → now < claims.expiresAt →
    ∃ intent, signer.sign lib claims = .ok intent ∧
      signer.verify lib intent.token now = .ok (signer.stamp claims)

structure SignCall where
  signer : FileComparisonIntentSigner
  claims : ComparisonIntentClaims

/-- The tokens of calls of `Sign` whose key is the one the ring has under its id. -/
def Issued (lib : IntentServices) (signer : FileComparisonIntentSigner) (calls : Set SignCall)
    (token : String) : Prop :=
  ∃ call ∈ calls,
    call.signer.keys.lookup call.signer.currentID = signer.keys.lookup call.signer.currentID ∧
    ∃ intent, call.signer.sign lib call.claims = .ok intent ∧ intent.token = token

def Carries (token : String) (payload sum : List UInt8) : Prop :=
  ∃ version keyID p q, token.toList.splitOn '.' = [version, keyID, p, q] ∧
    Base64.decode Base64.url p = some payload ∧ Base64.decode Base64.url q = some sum

/-- The MAC is not forged in a token: if it is that of the payload under a key of the ring, then
the payload was signed with this key. -/
def Unforged (lib : IntentServices) (signer : FileComparisonIntentSigner) (calls : Set SignCall)
    (token : String) : Prop :=
  ∀ entry ∈ signer.keys, ∀ payload, Carries token payload (lib.mac entry.2 payload) →
    ∃ call ∈ calls, call.signer.keys.lookup call.signer.currentID = some entry.2 ∧
      payload = marshalClaims (call.signer.stamp call.claims) ∧
      ∃ intent, call.signer.sign lib call.claims = .ok intent

/-- The payload and the MAC of a token are written as the encoder writes them. -/
def CanonicalParts (token : String) : Prop :=
  ∀ version keyID p q, token.toList.splitOn '.' = [version, keyID, p, q] →
    Base64.Canonical Base64.url p ∧ Base64.Canonical Base64.url q

theorem carries_tokenOf {call : SignCall} {key payload sum : List UInt8}
    (h : Carries (call.signer.tokenOf lib key call.claims) payload sum) :
    payload = marshalClaims (call.signer.stamp call.claims) := by
  obtain ⟨version, keyID, p, q, hsplit, hp, -⟩ := h
  rw [tokenOf, String.toList_ofList] at hsplit
  have hparts := hsplit.symm.trans (splitOn_intentToken_eq (not_mem_dot_of_splitOn hsplit))
  simp only [cons.injEq] at hparts
  rw [hparts.2.2.1, Base64.decode_encode] at hp
  exact (some.inj hp).symm

theorem canonical_encode (bytes : List UInt8) :
    Base64.Canonical Base64.url (Base64.encode Base64.url bytes) := by
  intro bytes' h
  rw [Base64.decode_encode] at h
  rw [some.inj h]

variable {calls : Set SignCall}

theorem canonicalParts_of_issued (h : Issued lib signer calls token) : CanonicalParts token := by
  obtain ⟨call, -, -, intent, hsign, rfl⟩ := h
  obtain ⟨key, -, htoken⟩ := token_of_sign hsign
  intro version keyID p q hsplit
  rw [htoken, tokenOf, String.toList_ofList] at hsplit
  have hparts := hsplit.symm.trans (splitOn_intentToken_eq (not_mem_dot_of_splitOn hsplit))
  simp only [cons.injEq] at hparts
  rw [hparts.2.2.1, hparts.2.2.2.1]
  exact ⟨canonical_encode _, canonical_encode _⟩

theorem toList_of_splitOn {version keyID : List Char}
    (h : token.toList.splitOn '.' = [version, keyID, p, q]) :
    token.toList = version ++ '.' :: keyID ++ '.' :: p ++ '.' :: q := by
  have hjoin : ['.'].intercalate (token.toList.splitOn '.') = token.toList :=
    intercalate_splitOn '.'
  rw [h] at hjoin
  rw [← hjoin]
  simp [intercalate, intersperse]

theorem issued_of_verify (hunforged : Unforged lib signer calls token)
    (hverify : signer.verify lib token now = .ok claims) (hparts : CanonicalParts token) :
    Issued lib signer calls token := by
  obtain ⟨keyID, p, q, key, payload, hsplit, hkey, hp, hq, read, hread, hid⟩ := verify_eq_ok hverify
  obtain ⟨call, hcall, hlookup, rfl, intent, hsign⟩ :=
    hunforged _ (mem_of_lookup hkey) payload ⟨_, _, p, q, hsplit, hp, hq⟩
  -- the payload names the key id it was signed under
  have hcurrent : call.signer.currentID = String.ofList keyID := by
    rw [unmarshal_marshalClaims] at hread
    rw [← hid, ← some.inj hread]
    rfl
  obtain ⟨key', hkey', htoken⟩ := token_of_sign hsign
  obtain rfl : key' = key := some.inj (hkey'.symm.trans hlookup)
  refine ⟨call, hcall, ?_, intent, hsign, ?_⟩
  · rw [hlookup, hcurrent, hkey]
  · obtain ⟨hcp, hcq⟩ := hparts _ _ _ _ hsplit
    have htext := toList_of_splitOn hsplit
    rw [hcp _ hp, hcq _ hq] at htext
    rw [htoken, tokenOf, hcurrent, intentToken, String.toList_ofList, ← htext, String.ofList_toList]

theorem not_mem_dot_of_verify {read : ComparisonIntentClaims}
    (hsign : signer.sign lib claims = .ok intent)
    (hverify : signer.verify lib intent.token now = .ok read) :
    '.' ∉ signer.currentID.toList := by
  obtain ⟨key, -, htoken⟩ := token_of_sign hsign
  obtain ⟨keyID, p, q, -, -, hsplit, -⟩ := verify_eq_ok hverify
  rw [htoken, tokenOf, String.toList_ofList] at hsplit
  exact not_mem_dot_of_splitOn hsplit

def bareClaims (text : String) (t : Time) : ComparisonIntentClaims :=
  ⟨comparisonIntentPurpose, "", "", "", none, 0, "", "", "", 0, none, "", "", "", "", "", 0, "",
    t, t, text, text⟩

theorem valid_bareClaims {t : Time} (h : lib.parseTime text = some t) :
    ValidClaims lib signer (bareClaims text t) :=
  ⟨rfl, .inl rfl, h, h, fun _ hitem => nomatch hitem⟩

/-- Tokens round-trip exactly if the current key id has no dot, and a token that verifies has been
issued exactly if it is written as the encoder writes it. -/
theorem intent_tokens_verify_iff (lib : IntentServices) (signer : FileComparisonIntentSigner)
    (hparse : ∃ text t, lib.parseTime text = some t) :
    (signer.RoundTrips lib ↔ '.' ∉ signer.currentID.toList) ∧
      ∀ calls token now claims, Unforged lib signer calls token →
        signer.verify lib token now = .ok claims →
          (Issued lib signer calls token ↔ CanonicalParts token) := by
  refine ⟨⟨fun hround => ?_, fun hdot claims now h hnow => ?_⟩, ?_⟩
  · obtain ⟨text, t, htext⟩ := hparse
    obtain ⟨intent, hsign, hverify⟩ := hround (bareClaims text t) (t - 1) (valid_bareClaims htext)
      (Int.sub_one_lt_of_le le_rfl)
    exact not_mem_dot_of_verify hsign hverify
  · obtain ⟨key, hkey⟩ := isSome_iff_exists.mp signer.current
    have hsign : signer.sign lib claims = _ := sign_eq hkey
    rw [if_pos ⟨h.purpose, h.keyID⟩] at hsign
    exact ⟨_, hsign, by rw [verify_tokenOf hkey hdot h hnow]⟩
  · intro calls token now claims hunforged hverify
    exact ⟨canonicalParts_of_issued, issued_of_verify hunforged hverify⟩

/-! ## A ring whose current key id has no dot, and one whose id has one -/

def sampleIntentServices : IntentServices where
  mac := Sha256.hmac
  parseTime text :=
    [63902822400000000000, 63902826000000000000].find? fun t => formatTime t = some text

def sampleRing (keyID : String) : List (String × Option (List UInt8)) :=
  [(keyID, some (replicate 32 7))]

def plainSigner : FileComparisonIntentSigner where
  keys := [("k1", replicate 32 7)]
  currentID := "k1"
  valid := by decide
  current := by decide

def dottedSigner : FileComparisonIntentSigner where
  keys := [("k.1", replicate 32 7)]
  currentID := "k.1"
  valid := by decide
  current := by decide

def sampleClaims : ComparisonIntentClaims where
  purpose := comparisonIntentPurpose
  keyID := ""
  actorHash := "a1"
  projectID := "p1"
  items := some
    [⟨"s1", "h1", "vps.metric", "", "", "", none, "", "", "", "", ""⟩,
     ⟨"s2", "h2", "vps.metric", "", "", "", some ["s2"], "", "", "", "", ""⟩]
  baselineIndex := 0
  alignment := "absolute"
  requestedStart := "2025-12-31T00:00:00Z"
  requestedEnd := "2026-01-01T00:00:00Z"
  toleranceSeconds := 30
  bucketSeconds := some 60
  digest := "d1"
  registryVersion := "r1"
  calculationVersion := "c1"
  warningsDigest := "w1"
  detailKind := ""
  detailSchemaVersion := 0
  detailMetric := ""
  issuedAt := 63902822400000000000
  expiresAt := 63902826000000000000
  issuedAtText := "2026-01-01T00:00:00Z"
  expiresAtText := "2026-01-01T01:00:00Z"

theorem valid_sampleClaims (signer : FileComparisonIntentSigner) :
    ValidClaims sampleIntentServices signer sampleClaims where
  purpose := rfl
  keyID := .inl rfl
  issued := by decide
  expires := by decide
  chosen item hitem := by
    simp only [sampleClaims, Slice.items_some, mem_cons, not_mem_nil, or_false] at hitem
    rcases hitem with rfl | rfl <;> rfl

def sampleCalls : Set SignCall := fun call => call = ⟨plainSigner, sampleClaims⟩

theorem unforged_sample (hsign : plainSigner.sign sampleIntentServices sampleClaims = .ok intent)
    (htoken : intent.token = plainSigner.tokenOf sampleIntentServices key sampleClaims) :
    Unforged sampleIntentServices plainSigner sampleCalls intent.token := by
  intro entry hentry payload hcarries
  rw [htoken] at hcarries
  obtain rfl := mem_singleton.mp hentry
  exact ⟨⟨plainSigner, sampleClaims⟩, rfl, by decide,
    @carries_tokenOf _ ⟨plainSigner, sampleClaims⟩ _ _ _ hcarries, intent, hsign⟩

/-- Under a plain key id the sample claims come back, from a token that was issued. -/
theorem intent_tokens_verify_plain :
    (sampleIntentServices.parseTime sampleClaims.issuedAtText = some sampleClaims.issuedAt ∧
      plainSigner.RoundTrips sampleIntentServices) ∧
    ∃ intent, plainSigner.sign sampleIntentServices sampleClaims = .ok intent ∧
      Unforged sampleIntentServices plainSigner sampleCalls intent.token ∧
      plainSigner.verify sampleIntentServices intent.token sampleClaims.issuedAt =
        .ok (plainSigner.stamp sampleClaims) ∧
      CanonicalParts intent.token := by
  have hparse := (valid_sampleClaims plainSigner).issued
  have hmain := intent_tokens_verify_iff sampleIntentServices plainSigner ⟨_, _, hparse⟩
  have hround := hmain.1.mpr (by decide)
  obtain ⟨intent, hsign, hverify⟩ :=
    hround sampleClaims sampleClaims.issuedAt (valid_sampleClaims _) (by decide)
  obtain ⟨key, hkey, htoken⟩ := token_of_sign hsign
  have hunforged := unforged_sample hsign htoken
  have hissued : Issued sampleIntentServices plainSigner sampleCalls intent.token :=
    ⟨⟨plainSigner, sampleClaims⟩, rfl, rfl, intent, hsign, rfl⟩
  exact ⟨⟨hparse, hround⟩, intent, hsign, hunforged, hverify,
    (hmain.2 _ _ _ _ hunforged hverify).mp hissued⟩

theorem verifyParts_of_length {parts : List (List Char)} (h : parts.length ≠ 4) :
    signer.verifyParts lib now parts = .error .invalid := by
  unfold verifyParts
  split
  · exact absurd rfl h
  · rfl

/-- A ring is opened with the current key id `k.1`; the token of valid claims is then rejected. -/
theorem dotted_key_token_rejected :
    (openComparisonIntentKeyring (sampleRing "k.1") "k.1").toOption.map
        (fun opened => (opened.keys, opened.currentID)) =
      some (dottedSigner.keys, dottedSigner.currentID) ∧
    ValidClaims sampleIntentServices dottedSigner sampleClaims ∧
    sampleClaims.issuedAt < sampleClaims.expiresAt ∧
    ∃ intent, dottedSigner.sign sampleIntentServices sampleClaims = .ok intent ∧
      dottedSigner.verify sampleIntentServices intent.token sampleClaims.issuedAt =
        .error .invalid := by
  refine ⟨by decide, valid_sampleClaims _, by decide, ?_⟩
  obtain ⟨key, hkey⟩ := isSome_iff_exists.mp dottedSigner.current
  have hsign : dottedSigner.sign sampleIntentServices sampleClaims = _ := sign_eq hkey
  rw [if_pos ⟨rfl, .inl rfl⟩] at hsign
  refine ⟨_, hsign, verifyParts_of_length ?_⟩
  have hdot : dottedSigner.currentID.toList.splitOn '.' = [['k'], ['1']] := by decide
  rw [tokenOf, String.toList_ofList, splitOn_intentToken, hdot]
  simp

end Houfeng.Evidence
