import PromptRail.PolicyAgent

/-!
# The digest binds the documents

The bytes fed to SHA-256 are a framing with NUL bytes: each name, whose UTF-8 holds no NUL, and each payload, which may hold NUL bytes
in UTF-16 and UTF-32, but is a whole JSON document and is none any more with a NUL and a name behind it.
-/

namespace PromptRail.PolicyAgent

open PyText (Text casefold encodeUtf8)
open JsonCodes (Value loads)
open Codec (Bytes)

/-- The names and the contents of the files, in order. -/
def documentsOf (files : List File) : List (Text × Option Bytes) := files.map fun f => (f.name, f.bytes)

/-- One of the agents accepts a policy for the files. -/
def Accepts {Settings Schema : Type} (env : Env Settings Schema) (files : List File) (p : OperatingPolicy Settings) : Prop :=
  (∃ policy, SuppliedPolicyAgent.synthesize env policy files = .ok p) ∨
    ∃ generatePolicy, EnterprisePolicyAgent.synthesize env generatePolicy files = .ok p

namespace BindingAux

/-! ## Names -/

theorem encodeUtf8_eq (t : Text) : encodeUtf8 t = t.flatMap String.utf8EncodeChar := by
  have hbytes : encodeUtf8 t = t.utf8Encode.data.toList := by rw [← String.toByteArray_ofList]; rfl
  rw [hbytes, List.utf8Encode, List.toList_data_toByteArray]

theorem encodeUtf8_injective : Function.Injective encodeUtf8 := by
  intro s t h
  have hdecode := congrArg PyText.decodeUtf8 h
  rw [PyText.decodeUtf8_encodeUtf8, PyText.decodeUtf8_encodeUtf8] at hdecode
  exact Option.some.inj hdecode

/-- A byte that is made of a number of one to 255 is no NUL. -/
theorem ofNat_ne_zero {n : Nat} (h : 0 < n) (hbyte : n < 256) : UInt8.ofNat n ≠ 0 := by
  intro hzero
  have := congrArg UInt8.toNat hzero
  rw [UInt8.toNat_ofNat_of_lt' hbyte] at this
  exact absurd this (Nat.ne_of_gt h)

theorem zero_not_mem_utf8EncodeChar {c : Char} (h : c ≠ Char.ofNat 0) : 0 ∉ String.utf8EncodeChar c := by
  have hpos : 0 < c.val.toNat := by
    refine Nat.pos_of_ne_zero fun hzero => h ?_
    exact Char.ext (UInt32.toNat_inj.1 hzero)
  intro hmem
  unfold String.utf8EncodeChar at hmem
  dsimp only at hmem
  split at hmem
  · simp only [List.mem_singleton] at hmem
    exact ofNat_ne_zero hpos (by omega) hmem.symm
  split at hmem
  · simp only [List.mem_cons, List.not_mem_nil, or_false] at hmem
    rcases hmem with hmem | hmem
    all_goals exact ofNat_ne_zero (by omega) (by omega) hmem.symm
  split at hmem
  · simp only [List.mem_cons, List.not_mem_nil, or_false] at hmem
    rcases hmem with hmem | hmem | hmem
    all_goals exact ofNat_ne_zero (by omega) (by omega) hmem.symm
  · simp only [List.mem_cons, List.not_mem_nil, or_false] at hmem
    rcases hmem with hmem | hmem | hmem | hmem
    all_goals exact ofNat_ne_zero (by omega) (by omega) hmem.symm

theorem zero_not_mem_encodeUtf8 {t : Text} (h : Char.ofNat 0 ∉ t) : 0 ∉ encodeUtf8 t := by
  rw [encodeUtf8_eq]
  intro hmem
  obtain ⟨c, hc, hbyte⟩ := List.mem_flatMap.1 hmem
  exact zero_not_mem_utf8EncodeChar (fun hzero => h (hzero ▸ hc)) hbyte

/-- A name with a suffix has three characters. -/
theorem three_le_length {name : Text} (h : casefold (suffix name) = ".json".toList) : 3 ≤ name.length := by
  unfold suffix at h
  split at h
  · cases h
  · split at h
    · rename_i hinside
      omega
    · cases h

/-- The bytes of a name in front of a NUL: three at least, and none of them NUL. -/
def Header (h : Bytes) : Prop := 0 ∉ h ∧ 3 ≤ h.length

/-- The bytes of a document that is read. -/
def Body (b : Bytes) : Prop := ∃ v, loads b = some v ∧ v.isContainer = true

theorem header_encodeUtf8 (f : File) (h : casefold (suffix f.name) = ".json".toList) : Header (encodeUtf8 f.name) := by
  refine ⟨zero_not_mem_encodeUtf8 f.name_noNul, ?_⟩
  have hbytes : f.name.length ≤ (encodeUtf8 f.name).length := by
    have hsizes := List.length_le_sum_of_one_le _ (List.forall_mem_map.2 fun c (_ : c ∈ f.name) => Char.utf8Size_pos c)
    rwa [List.length_map, ← PyText.utf8Len, ← PyText.length_encodeUtf8] at hsizes
  exact (three_le_length h).trans hbytes

/-- A document with a NUL and a name behind it is none. -/
theorem body_append {h b : Bytes} (more : Bytes) (hh : Header h) (hb : Body b) : ¬Body (b ++ 0 :: (h ++ more)) := by
  rintro ⟨v', hv', -⟩
  obtain ⟨v, hv, hcontainer⟩ := hb
  obtain ⟨hnul, hlength⟩ := hh
  match h, hlength with
  | x :: y :: z :: h, _ =>
    simp only [List.mem_cons, not_or] at hnul
    have hnone := JsonCodes.loads_append_nul hv hcontainer (Ne.symm hnul.1) (Ne.symm hnul.2.1) (Ne.symm hnul.2.2.1) (h ++ more)
    cases hv'.symm.trans hnone

/-- What the loop has fed is the framing of the names and the payloads. -/
theorem ingest_fed {files : List File} {s s' : Intake} (h : files.foldlM readFile s = .ok s') :
    ∃ ds : List (Text × Bytes), documentsOf files = ds.map (fun d => (d.1, some d.2)) ∧
      s'.fed = s.fed ++ Framing.frames 0 (ds.map fun d => (encodeUtf8 d.1, d.2)) ∧
      ∀ d ∈ ds, Header (encodeUtf8 d.1) ∧ Body d.2 := by
  induction files generalizing s with
  | nil =>
    cases h
    exact ⟨[], rfl, by simp [Framing.frames], fun d hd => absurd hd List.not_mem_nil⟩
  | cons f files ih =>
    rw [List.foldlM_cons] at h
    obtain ⟨s₁, hfirst, h⟩ := Outcome.bind_ok h
    obtain ⟨payload, v, hbytes, hloads, hcontainer, hsuffix, hfed⟩ := readFile_ok hfirst
    obtain ⟨ds, hds, hfed', hall⟩ := ih h
    refine ⟨(f.name, payload) :: ds, ?_, ?_, ?_⟩
    · rw [documentsOf, List.map_cons, List.map_cons, hbytes]
      exact congrArg _ hds
    · rw [hfed', hfed, List.append_assoc]
      rfl
    · exact List.forall_mem_cons.2 ⟨⟨header_encodeUtf8 f hsuffix, v, hloads, hcontainer⟩, hall⟩

theorem documentsOf_eq {files files' : List File} {s s' : Intake} (h : ingest files = .ok s) (h' : ingest files' = .ok s')
    (hfed : s.fed = s'.fed) : documentsOf files = documentsOf files' := by
  obtain ⟨_, -, h⟩ := Outcome.bind_ok h
  obtain ⟨_, -, h'⟩ := Outcome.bind_ok h'
  obtain ⟨ds, hds, hframes, hall⟩ := ingest_fed h
  obtain ⟨ds', hds', hframes', hall'⟩ := ingest_fed h'
  rw [hframes, hframes', List.nil_append, List.nil_append] at hfed
  have hsame := Framing.frames_injective (fun _ hh => hh.1) (fun _ _ more hh hb => body_append more hh hb)
    (List.forall_mem_map.2 hall) (List.forall_mem_map.2 hall') hfed
  have hinjective : Function.Injective fun d : Text × Bytes => (encodeUtf8 d.1, d.2) := by
    intro d d' heq
    obtain ⟨hname, hpayload⟩ := Prod.mk.inj heq
    exact Prod.ext (encodeUtf8_injective hname) hpayload
  rw [hds, hds', List.map_injective_iff.2 hinjective hsame]

theorem accepts_digest {Settings Schema : Type} {env : Env Settings Schema} {files : List File} {p : OperatingPolicy Settings}
    (h : Accepts env files p) : ∃ s, ingest files = .ok s ∧ p.sourceDigest = some (env.sha256 s.fed) := by
  rcases h with ⟨policy, h⟩ | ⟨generatePolicy, h⟩
  · obtain ⟨s, hs, hdigest, -⟩ := SuppliedPolicyAgent.synthesize_ok env h
    exact ⟨s, hs, hdigest⟩
  · exact EnterprisePolicyAgent.synthesize_ok env h

end BindingAux

open BindingAux

/-- Two lists of files that feed SHA-256 the same bytes have the same names and contents; where SHA-256 is injective, a policy is
accepted for one digest on one list only. -/
theorem digest_binds {Settings Schema : Type} (env : Env Settings Schema) :
    (∀ files files' s s', ingest files = .ok s → ingest files' = .ok s' → s.fed = s'.fed →
      documentsOf files = documentsOf files') ∧
    (Function.Injective env.sha256 →
      (∀ files files' p p', Accepts env files p → Accepts env files' p' → p.sourceDigest = p'.sourceDigest →
        documentsOf files = documentsOf files') ∧
      ∀ policy files files' p p', policy.sourceDigest ≠ none → SuppliedPolicyAgent.synthesize env policy files = .ok p →
        SuppliedPolicyAgent.synthesize env policy files' = .ok p' → documentsOf files = documentsOf files') := by
  have hdigest : Function.Injective env.sha256 → ∀ files files' p p', Accepts env files p → Accepts env files' p' →
      p.sourceDigest = p'.sourceDigest → documentsOf files = documentsOf files' := by
    intro hinjective files files' p p' h h' hsame
    obtain ⟨s, hs, hp⟩ := accepts_digest h
    obtain ⟨s', hs', hp'⟩ := accepts_digest h'
    rw [hp, hp'] at hsame
    exact documentsOf_eq hs hs' (hinjective (Option.some.inj hsame))
  refine ⟨fun files files' s s' => documentsOf_eq, fun hinjective => ⟨hdigest hinjective, ?_⟩⟩
  intro policy files files' p p' hnamed h h'
  obtain ⟨-, -, -, hpolicy⟩ := SuppliedPolicyAgent.synthesize_ok env h
  obtain ⟨-, -, -, hpolicy'⟩ := SuppliedPolicyAgent.synthesize_ok env h'
  exact hdigest hinjective files files' p p' (Or.inl ⟨policy, h⟩) (Or.inl ⟨policy, h'⟩)
    ((hpolicy.resolve_left hnamed).symm.trans (hpolicy'.resolve_left hnamed))

/-- A file with an empty object in a directory. -/
def emptyObject (directory : String) : File where
  path := (directory ++ "/x.json").toList
  name := "x.json".toList
  size := some 2
  bytes := some [123, 125]
  name_noNul := by decide

/-- An injective digest, which is SHA-256 on the bytes of that file. -/
def digestOfEmptyObject (b : Bytes) : Text :=
  if b = [120, 46, 106, 115, 111, 110, 0, 123, 125, 0] then
    "a559654e338dcd3ca89695909f19740667fd17023109161f347fd725530ac2da".toList
  else 'x' :: b.map Char.ofUInt8

theorem digestOfEmptyObject_injective : Function.Injective digestOfEmptyObject := by
  have hbyte : Function.Injective Char.ofUInt8 := by
    intro a b h
    exact UInt8.toUInt32_inj.1 (congrArg Char.val h)
  intro b b' h
  unfold digestOfEmptyObject at h
  split at h
  · rename_i hb
    split at h
    · rename_i hb'
      rw [hb, hb']
    · exact absurd (List.cons.inj h).1 (by decide)
  · split at h
    · exact absurd (List.cons.inj h).1 (by decide)
    · exact List.map_injective_iff.2 hbyte (List.cons.inj h).2

def emptyEnv : Env Unit Unit where
  sha256 := digestOfEmptyObject
  modelJsonSchema := ()
  validateSettings _ := .ok ()
  stringType _ := []

/-- Two paths to files of one name and content are accepted for one digest, which the policy names. -/
theorem digest_binds_emptyObject :
    (∃ p, Accepts emptyEnv [emptyObject "/a"] p ∧ Accepts emptyEnv [emptyObject "/b"] p) ∧
      documentsOf [emptyObject "/a"] = documentsOf [emptyObject "/b"] := by
  obtain ⟨policy, hpolicy⟩ : ∃ policy : OperatingPolicy Unit, policy.sourceDigest =
      some "a559654e338dcd3ca89695909f19740667fd17023109161f347fd725530ac2da".toList := ⟨⟨(), _⟩, rfl⟩
  have haccepted : ∀ directory, SuppliedPolicyAgent.synthesize emptyEnv ⟨(), policy.sourceDigest⟩ [emptyObject directory] =
      .ok ⟨(), policy.sourceDigest⟩ := by
    rw [hpolicy]
    exact fun _ => rfl
  refine ⟨⟨_, Or.inl ⟨_, haccepted "/a"⟩, Or.inl ⟨_, haccepted "/b"⟩⟩, ?_⟩
  exact ((digest_binds emptyEnv).2 digestOfEmptyObject_injective).2 _ _ _ _ _ (by rw [hpolicy]; exact Option.some_ne_none _)
    (haccepted "/a") (haccepted "/b")

end PromptRail.PolicyAgent
