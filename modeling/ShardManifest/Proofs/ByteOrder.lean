import Mathlib.Data.String.Basic

/-!
# Texts in the order of their bytes

Names, keys and identifiers are compared code point by code point, while whoever reads a compiled
object compares the UTF-8 bytes that it is written in. Both orders are one: the bytes of a smaller
character are smaller than those of a greater one, whatever follows them.

## Main results

- `bytewiseLT_iff`: the order of texts is the order of their bytes
- `eq_of_ascending_of_mem_iff`: texts that ascend strictly are told by which texts they are
- `exists_first_iff_least`: in ascending texts the first with a property is the least one
-/

namespace ShardManifest

def utf8Bytes (s : String) : List UInt8 := s.toUTF8.data.toList

/-- The order of texts by their bytes. -/
def BytewiseLT (a b : String) : Prop := utf8Bytes a < utf8Bytes b

theorem utf8Bytes_eq_flatMap (s : String) :
    utf8Bytes s = s.toList.flatMap String.utf8EncodeChar := by
  rw [utf8Bytes, String.toUTF8_eq_toByteArray, ← String.utf8Encode_toList]
  simp [List.utf8Encode]

theorem codePoint_lt (c : Char) : c.val.toNat < 1114112 := by
  rcases c.valid with h | ⟨_, h⟩
  · exact Nat.lt_trans h (by decide)
  · exact h

theorem byte_cons_lt_cons_iff {m n : Nat} (hm : m < 256) (hn : n < 256) (x y : List UInt8) :
    UInt8.ofNat m :: x < UInt8.ofNat n :: y ↔ m < n ∨ m = n ∧ x < y := by
  have heq : UInt8.ofNat m = UInt8.ofNat n ↔ m = n := by
    rw [← UInt8.toNat_inj, UInt8.toNat_ofNat', UInt8.toNat_ofNat']
    omega
  rw [List.cons_lt_cons_iff, UInt8.ofNat_lt_iff_lt hm hn, heq]

/-- The bytes of a smaller character are smaller, whatever follows them. -/
theorem utf8EncodeChar_append_lt {c d : Char} (h : c < d) (x y : List UInt8) :
    String.utf8EncodeChar c ++ x < String.utf8EncodeChar d ++ y := by
  have hlt : c.val.toNat < d.val.toNat := UInt32.lt_iff_toNat_lt.1 h
  have hd := codePoint_lt d
  unfold String.utf8EncodeChar
  dsimp only
  generalize c.val.toNat = m at *
  generalize d.val.toNat = n at *
  -- every byte after the first carries six bits, so the bytes are digits to the base 64
  have hm₂ : m / 4096 = m / 64 / 64 := by omega
  have hm₃ : m / 262144 = m / 64 / 64 / 64 := by omega
  have hm₄ : m / 64 / 64 / 64 % 8 = m / 64 / 64 / 64 := by omega
  have hn₂ : n / 4096 = n / 64 / 64 := by omega
  have hn₃ : n / 262144 = n / 64 / 64 / 64 := by omega
  have hn₄ : n / 64 / 64 / 64 % 8 = n / 64 / 64 / 64 := by omega
  split_ifs <;>
    simp (disch := omega) only [List.cons_append, byte_cons_lt_cons_iff, hm₂, hm₃, hm₄, hn₂,
      hn₃, hn₄] <;>
    omega

theorem append_bytes_lt {a b : List UInt8} (x : List UInt8) (h : a < b) : x ++ a < x ++ b := by
  induction x with
  | nil => exact h
  | cons u x ih => exact List.cons_lt_cons_iff.2 (.inr ⟨rfl, ih⟩)

theorem flatMap_utf8EncodeChar_lt {l m : List Char} (h : l < m) :
    l.flatMap String.utf8EncodeChar < m.flatMap String.utf8EncodeChar := by
  induction l generalizing m with
  | nil =>
    cases m with
    | nil => exact absurd h (List.not_lt_nil _)
    | cons d m =>
      obtain ⟨u, rest, hu⟩ := List.exists_cons_of_ne_nil (String.utf8EncodeChar_ne_nil (c := d))
      rw [List.flatMap_nil, List.flatMap_cons, hu]
      exact List.nil_lt_cons _ _
  | cons c l ih =>
    cases m with
    | nil => exact absurd h (List.not_lt_nil _)
    | cons d m =>
      rw [List.flatMap_cons, List.flatMap_cons]
      -- the first characters decide, or they agree and the rest decides
      rcases List.cons_lt_cons_iff.1 h with hcd | ⟨rfl, hlm⟩
      · exact utf8EncodeChar_append_lt hcd _ _
      · exact append_bytes_lt _ (ih hlm)

/-- The order of texts is the order of their bytes. -/
theorem bytewiseLT_iff {a b : String} : BytewiseLT a b ↔ a < b := by
  have mono : ∀ {a b : String}, a < b → BytewiseLT a b := by
    intro a b h
    rw [BytewiseLT, utf8Bytes_eq_flatMap, utf8Bytes_eq_flatMap]
    exact flatMap_utf8EncodeChar_lt (String.lt_iff.1 h)
  -- texts are ordered totally, so the converse follows from monotony
  refine ⟨fun h => ?_, mono⟩
  rcases lt_trichotomy a b with hab | rfl | hba
  · exact hab
  · exact absurd h (List.lt_irrefl _)
  · exact absurd (mono hba) (List.lt_asymm h)

/-- Texts in strictly ascending order are told by which texts they are. -/
theorem eq_of_ascending_of_mem_iff {a b : List String} (ha : a.Pairwise (· < ·))
    (hb : b.Pairwise (· < ·)) (h : ∀ x, x ∈ a ↔ x ∈ b) : a = b := by
  have perm : a.Perm b :=
    (List.perm_ext_iff_of_nodup (ha.imp String.ne_of_lt) (hb.imp String.ne_of_lt)).2 h
  exact perm.eq_of_pairwise (fun x y _ _ hxy hyx => absurd hyx (lt_asymm hxy)) ha hb

/-- In ascending texts the first with a property is the least one. -/
theorem exists_first_iff_least {l : List String} (hl : l.Pairwise (· < ·)) {P : String → Prop}
    {a : String} :
    (∃ before after, l = before ++ a :: after ∧ ∀ b ∈ before, ¬P b) ↔
      a ∈ l ∧ ∀ b ∈ l, P b → a = b ∨ a < b := by
  constructor
  · rintro ⟨before, after, rfl, hbefore⟩
    refine ⟨by simp, fun b hb hP => ?_⟩
    obtain ⟨-, htail, -⟩ := List.pairwise_append.1 hl
    rcases List.mem_append.1 hb with hb | hb
    · exact absurd hP (hbefore b hb)
    · rcases List.mem_cons.1 hb with rfl | hb
      · exact .inl rfl
      · exact .inr ((List.pairwise_cons.1 htail).1 b hb)
  · rintro ⟨ha, hleast⟩
    obtain ⟨before, after, rfl⟩ := List.append_of_mem ha
    refine ⟨before, after, rfl, fun b hb hP => ?_⟩
    obtain ⟨-, -, hcross⟩ := List.pairwise_append.1 hl
    have hba : b < a := hcross b hb a List.mem_cons_self
    rcases hleast b (List.mem_append_left _ hb) hP with rfl | hab
    · exact lt_irrefl _ hba
    · exact lt_asymm hab hba

end ShardManifest
