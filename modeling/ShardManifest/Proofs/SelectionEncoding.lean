import ShardManifest.Proofs.Identifiers

/-!
# Selections told by what is digested

The text behind a fingerprint spells two names one after the other, and a name can be any text, also
one that looks like a spelled name. What is spelled can still be read in one way only: a count ends
where the first colon stands, and then says where the name ends. So the digested bytes tell the
selection, and fingerprints are as good as the digest.

## Main definitions

- `Sha256.TellsApart`: two rows of bytes do not have one digest by accident

## Main results

- `utf8Bytes_injective`, `append_inj_of_utf8ByteSize`: bytes tell a text, and their number tells
  where it ends
- `Selection.encodeName_append_inj`: a spelled name is read off the front of a text in one way only
- `Selection.encoded_alike_iff`: the digested bytes tell a selection, and so does its fingerprint
-/

namespace ShardManifest

/-! ### Bytes -/

theorem utf8Bytes_injective {a b : String} (h : utf8Bytes a = utf8Bytes b) : a = b := by
  rw [utf8Bytes, utf8Bytes] at h
  exact String.toByteArray_inj.1 (ByteArray.ext (Array.toList_inj.1 h))

/-- A text that has a given number of bytes is read off the front in one way only. -/
theorem append_inj_of_utf8ByteSize {a b : String} {x y : List Char}
    (hsize : a.utf8ByteSize = b.utf8ByteSize) (h : a.toList ++ x = b.toList ++ y) :
    a = b ∧ x = y := by
  have hbytes : utf8Bytes a ++ x.flatMap String.utf8EncodeChar =
      utf8Bytes b ++ y.flatMap String.utf8EncodeChar := by
    rw [utf8Bytes_eq_flatMap, utf8Bytes_eq_flatMap, ← List.flatMap_append, h, List.flatMap_append]
  have hlength : (utf8Bytes a).length = (utf8Bytes b).length := hsize
  obtain rfl := utf8Bytes_injective (List.append_inj hbytes hlength).1
  exact ⟨rfl, List.append_cancel_left h⟩

/-- Two rows of bytes do not have one digest, unless they are the same. -/
def Sha256.TellsApart (x y : List UInt8) : Prop := x ≠ y → digest x ≠ digest y

/-! ### Spelled names -/

theorem colon_not_mem_numeral (n : Nat) : ':' ∉ (toString n).toList := by
  intro h
  exact absurd (isDigit_of_mem_numeral h) (by decide)

namespace Selection

theorem toList_encodeName_none : (encodeName none).toList = ['-', ';'] := rfl

theorem toList_encodeName_some (name : String) :
    (encodeName (some name)).toList =
      (toString name.utf8ByteSize).toList ++ ':' :: (name.toList ++ [';']) := by
  simp [encodeName]

/-- A name that is not set is not spelled like one that is set, whatever follows. -/
theorem encodeName_none_append_ne (name : String) (x y : List Char) :
    (encodeName none).toList ++ x ≠ (encodeName (some name)).toList ++ y := by
  rw [toList_encodeName_none, toList_encodeName_some]
  -- it begins with a hyphen, the other one with a digit
  cases hcount : (toString name.utf8ByteSize).toList with
  | nil => simp
  | cons digit more =>
    intro h
    have hdigit : digit ∈ (toString name.utf8ByteSize).toList := hcount ▸ List.mem_cons_self
    rw [← (List.cons.inj h).1] at hdigit
    exact hyphen_not_mem_numeral _ hdigit

/-- A spelled name is read off the front of a text in one way only. -/
theorem encodeName_append_inj {a b : Option String} {x y : List Char}
    (h : (encodeName a).toList ++ x = (encodeName b).toList ++ y) : a = b ∧ x = y := by
  cases a with
  | none =>
    cases b with
    | none => exact ⟨rfl, List.append_cancel_left h⟩
    | some name => exact absurd h (encodeName_none_append_ne name x y)
  | some name =>
    cases b with
    | none => exact absurd h.symm (encodeName_none_append_ne name y x)
    | some name' =>
      simp only [toList_encodeName_some, List.append_assoc, List.cons_append] at h
      -- the count ends at the first colon, and the name where the count says
      obtain ⟨hcount, hrest⟩ := append_cons_inj_of_not_mem (colon_not_mem_numeral _)
        (colon_not_mem_numeral _) h
      have hsize := numeral_injective (String.toList_injective hcount)
      obtain ⟨rfl, hbehind⟩ := append_inj_of_utf8ByteSize hsize hrest
      exact ⟨rfl, (List.cons.inj hbehind).2⟩

theorem encode_injective {a b : Selection} (h : a.encode = b.encode) : a = b := by
  have hlist := congrArg String.toList h
  rw [encode, encode, String.toList_append, String.toList_append] at hlist
  obtain ⟨hpod, hclaim⟩ := encodeName_append_inj hlist
  rw [← List.append_nil (encodeName a.claimTemplate).toList,
    ← List.append_nil (encodeName b.claimTemplate).toList] at hclaim
  rw [mk.injEq]
  exact ⟨hpod, (encodeName_append_inj hclaim).1⟩

/-- The digested bytes tell a selection. So does its fingerprint, if the two rows of bytes do not
have one digest by accident. -/
theorem encoded_alike_iff (a b : Selection) :
    (utf8Bytes a.encode = utf8Bytes b.encode ↔ a = b) ∧
    (Sha256.TellsApart (utf8Bytes a.encode) (utf8Bytes b.encode) →
      (Fingerprint.of a = Fingerprint.of b ↔ a = b)) := by
  have hbytes : utf8Bytes a.encode = utf8Bytes b.encode ↔ a = b :=
    ⟨fun h => encode_injective (utf8Bytes_injective h), fun h => by rw [h]⟩
  refine ⟨hbytes, fun hdigests => ?_⟩
  rw [Fingerprint.of_eq_of_iff, ← hbytes]
  constructor
  · intro hdigest
    by_contra hne
    exact hdigests hne hdigest
  · intro h
    exact congrArg Sha256.digest h

/-- A pod template that is named like the text of two names. -/
def imitating : Selection := ⟨some "é;1:-", none⟩

/-- The two names that `imitating` is named like. -/
def imitated : Selection := ⟨some "é", some "-"⟩

theorem encoded_alike_iff_imitating :
    imitating.encode = "6:é;1:-;-;" ∧ imitated.encode = "2:é;1:-;" ∧
      utf8Bytes imitating.encode ≠ utf8Bytes imitated.encode ∧
      Sha256.TellsApart (utf8Bytes imitating.encode) (utf8Bytes imitated.encode) ∧
      Fingerprint.of imitating ≠ Fingerprint.of imitated := by
  have hne : imitating ≠ imitated := by decide
  have hdigests : Sha256.TellsApart (utf8Bytes imitating.encode) (utf8Bytes imitated.encode) :=
    fun _ => by decide +kernel
  obtain ⟨hbytes, hfingerprints⟩ := encoded_alike_iff imitating imitated
  exact ⟨by decide, by decide, mt hbytes.1 hne, hdigests, mt (hfingerprints hdigests).1 hne⟩

end Selection

end ShardManifest
