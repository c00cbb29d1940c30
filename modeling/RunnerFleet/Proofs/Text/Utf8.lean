import Mathlib
import RunnerFleet.Text.Utf8

/-!
# A text is read as it was written

The first byte of a character says how many follow and what the first of these may be (`lead?`). The
bytes that a character is written as keep to this, so they are read as that character whatever comes
after them, and a text is read back from its bytes (`decode?_encode`).
-/

namespace RunnerFleet.Utf8

theorem toNat_ofNat_of_lt {n : Nat} (h : n < 256) : (UInt8.ofNat n).toNat = n :=
  UInt8.toNat_ofNat_of_lt' h

theorem ofNat_le_ofNat {m n : Nat} (hm : m < 256) (hn : n < 256) (h : m ≤ n) :
    UInt8.ofNat m ≤ UInt8.ofNat n := by
  rwa [UInt8.le_iff_toNat_le, toNat_ofNat_of_lt hm, toNat_ofNat_of_lt hn]

/-! ## First bytes -/

theorem lead?_two : ∀ k : Fin 32, 2 ≤ k.val →
    lead? (UInt8.ofNat (0xC0 + k)) = some (1, UInt8.ofNat 0x80, UInt8.ofNat 0xBF) ∧
      leadBits (UInt8.ofNat (0xC0 + k)) 1 = k := by
  decide

/-- Three bytes: what would fit in two, and the surrogates, have no second byte. -/
theorem lead?_three : ∀ k : Fin 16, lead? (UInt8.ofNat (0xE0 + k)) =
    some (2, UInt8.ofNat (if k.val = 0 then 0xA0 else 0x80),
      UInt8.ofNat (if k.val = 13 then 0x9F else 0xBF)) ∧
      leadBits (UInt8.ofNat (0xE0 + k)) 2 = k := by
  decide

/-- Four bytes: what would fit in three, and what is no code point, have no second byte. -/
theorem lead?_four : ∀ k : Fin 5, lead? (UInt8.ofNat (0xF0 + k)) =
    some (3, UInt8.ofNat (if k.val = 0 then 0x90 else 0x80),
      UInt8.ofNat (if k.val = 4 then 0x8F else 0xBF)) ∧
      leadBits (UInt8.ofNat (0xF0 + k)) 3 = k := by
  decide

theorem not_ascii_of_lead? {b : UInt8} {found : Nat × UInt8 × UInt8} (h : lead? b = some found) :
    ¬ b < 0x80 := by
  intro hb
  have hsmall : b.toNat < 128 := UInt8.lt_iff_toNat_lt.1 hb
  have htable : ∀ k : Fin 128, lead? (UInt8.ofNat k) = none := by decide +kernel
  have hnone := htable ⟨b.toNat, hsmall⟩
  simp only [UInt8.ofNat_toNat, h] at hnone
  cases hnone

/-! ## Characters -/

theorem isContinuation_ofNat {m : Nat} (h : m < 64) :
    isContinuation (UInt8.ofNat (0x80 + m)) = true := by
  have hlow : UInt8.ofNat 0x80 ≤ UInt8.ofNat (0x80 + m) :=
    ofNat_le_ofNat (by omega) (by omega) (by omega)
  have hhigh : UInt8.ofNat (0x80 + m) ≤ UInt8.ofNat 0xBF :=
    ofNat_le_ofNat (by omega) (by omega) (by omega)
  exact Bool.and_eq_true_iff.2 ⟨decide_eq_true hlow, decide_eq_true hhigh⟩

theorem digit_ofNat {m : Nat} (h : m < 64) : (UInt8.ofNat (0x80 + m)).toNat % 64 = m := by
  rw [toNat_ofNat_of_lt (by omega)]
  omega

/-- A first byte is followed by as many continuations as it asks for, the first of them in its
range. -/
theorem readChar_of_lead? {b low high : UInt8} (second : UInt8) (tail rest : List UInt8)
    (hlead : lead? b = some (tail.length + 1, low, high)) (hlow : low ≤ second)
    (hhigh : second ≤ high) (htail : ∀ t ∈ tail, isContinuation t = true) :
    readChar b (second :: (tail ++ rest)) =
      (some (Char.ofNat ((second :: tail).foldl (fun n c => n * 64 + c.toNat % 64)
        (leadBits b (tail.length + 1)))), tail.length + 1) := by
  have hrange : (low ≤ second && second ≤ high) = true := by simp [hlow, hhigh]
  have htake : ((tail ++ rest).take tail.length).takeWhile isContinuation = tail := by
    rw [List.take_left', List.takeWhile_eq_self_iff.2 htail]
    rfl
  simp only [readChar, if_neg (not_ascii_of_lead? hlead), hlead, hrange, if_true,
    Nat.add_sub_cancel, htake]

section Lengths

variable {k l m p : Nat} (rest : List UInt8)

theorem readChar_one (hk : k < 128) :
    readChar (UInt8.ofNat k) rest = (some (Char.ofNat k), 0) := by
  have hb : UInt8.ofNat k < 0x80 := by
    rw [UInt8.lt_iff_toNat_lt, toNat_ofNat_of_lt (by omega)]
    exact hk
  rw [readChar, if_pos hb, toNat_ofNat_of_lt (by omega)]

theorem readChar_two (hk : 2 ≤ k) (hk' : k < 32) (hl : l < 64) :
    readChar (UInt8.ofNat (0xC0 + k)) (UInt8.ofNat (0x80 + l) :: rest) =
      (some (Char.ofNat (k * 64 + l)), 1) := by
  obtain ⟨hlead, hbits⟩ := lead?_two ⟨k, hk'⟩ hk
  have hread := readChar_of_lead? (UInt8.ofNat (0x80 + l)) [] rest hlead
    (ofNat_le_ofNat (by omega) (by omega) (by omega))
    (ofNat_le_ofNat (by omega) (by omega) (by omega)) (List.forall_mem_nil _)
  simpa only [List.nil_append, List.length_nil, List.foldl_cons, List.foldl_nil, hbits,
    digit_ofNat hl] using hread

theorem readChar_three (hk : k < 16) (hl : l < 64) (hm : m < 64) (hlong : k = 0 → 32 ≤ l)
    (hsurrogate : k = 13 → l < 32) :
    readChar (UInt8.ofNat (0xE0 + k))
        (UInt8.ofNat (0x80 + l) :: UInt8.ofNat (0x80 + m) :: rest) =
      (some (Char.ofNat ((k * 64 + l) * 64 + m)), 2) := by
  obtain ⟨hlead, hbits⟩ := lead?_three ⟨k, hk⟩
  dsimp only at hlead hbits
  have htail : ∀ t ∈ [UInt8.ofNat (0x80 + m)], isContinuation t = true := by
    intro t ht
    rw [List.mem_singleton.1 ht]
    exact isContinuation_ofNat hm
  have hread := readChar_of_lead? (UInt8.ofNat (0x80 + l)) [UInt8.ofNat (0x80 + m)] rest hlead
    (ofNat_le_ofNat (by split <;> omega) (by omega) (by split <;> omega))
    (ofNat_le_ofNat (by omega) (by split <;> omega) (by split <;> omega)) htail
  simpa only [List.singleton_append, List.length_singleton, List.foldl_cons, List.foldl_nil, hbits,
    digit_ofNat hl, digit_ofNat hm] using hread

theorem readChar_four (hk : k < 5) (hl : l < 64) (hm : m < 64) (hp : p < 64)
    (hlong : k = 0 → 16 ≤ l) (hlast : k = 4 → l < 16) :
    readChar (UInt8.ofNat (0xF0 + k)) (UInt8.ofNat (0x80 + l) :: UInt8.ofNat (0x80 + m) ::
        UInt8.ofNat (0x80 + p) :: rest) =
      (some (Char.ofNat (((k * 64 + l) * 64 + m) * 64 + p)), 3) := by
  obtain ⟨hlead, hbits⟩ := lead?_four ⟨k, hk⟩
  dsimp only at hlead hbits
  have htail : ∀ t ∈ [UInt8.ofNat (0x80 + m), UInt8.ofNat (0x80 + p)],
      isContinuation t = true := by
    intro t ht
    rcases List.mem_pair.1 ht with rfl | rfl
    · exact isContinuation_ofNat hm
    · exact isContinuation_ofNat hp
  have hread := readChar_of_lead? (UInt8.ofNat (0x80 + l))
    [UInt8.ofNat (0x80 + m), UInt8.ofNat (0x80 + p)] rest hlead
    (ofNat_le_ofNat (by split <;> omega) (by omega) (by split <;> omega))
    (ofNat_le_ofNat (by omega) (by split <;> omega) (by split <;> omega)) htail
  simpa only [List.cons_append, List.nil_append, List.length_cons, List.length_nil,
    List.foldl_cons, List.foldl_nil, hbits, digit_ofNat hl, digit_ofNat hm,
    digit_ofNat hp] using hread

end Lengths

/-- The code of a character is no surrogate. -/
theorem toNat_valid (c : Char) : c.toNat < 0xD800 ∨ 0xDFFF < c.toNat ∧ c.toNat < 0x110000 := by
  have h := c.valid
  simpa [UInt32.isValidChar, Nat.isValidChar] using h

/-- The bytes of a character are read as the character, whatever follows them. -/
theorem readChar_encodeChar (c : Char) (rest : List UInt8) : ∃ b following,
    encodeChar c = b :: following ∧
      readChar b (following ++ rest) = (some c, following.length) := by
  have hvalid := toNat_valid c
  have hcode : ∀ n, n = c.toNat → Char.ofNat n = c := by
    rintro n rfl
    exact Char.ofNat_toNat c
  unfold encodeChar
  generalize c.toNat = n at hvalid hcode
  by_cases h1 : n < 0x80
  · simp only [if_pos h1]
    refine ⟨_, _, rfl, ?_⟩
    rw [readChar_one _ h1, hcode n rfl]
    rfl
  by_cases h2 : n < 0x800
  · simp only [if_neg h1, if_pos h2]
    refine ⟨_, _, rfl, ?_⟩
    rw [List.singleton_append, readChar_two rest (by omega) (by omega) (by omega),
      hcode _ (by omega)]
    rfl
  by_cases h3 : n < 0x10000
  · simp only [if_neg h1, if_neg h2, if_pos h3]
    refine ⟨_, _, rfl, ?_⟩
    simp only [List.cons_append, List.nil_append]
    rw [readChar_three rest (by omega) (by omega) (by omega) (by omega) (by omega),
      hcode _ (by omega)]
    rfl
  · simp only [if_neg h1, if_neg h2, if_neg h3]
    refine ⟨_, _, rfl, ?_⟩
    simp only [List.cons_append, List.nil_append]
    rw [readChar_four rest (by omega) (by omega) (by omega) (by omega) (by omega) (by omega),
      hcode _ (by omega)]
    rfl

/-! ## Texts -/

theorem chars_encodeChar (c : Char) (rest : List UInt8) :
    chars (encodeChar c ++ rest) = some c :: chars rest := by
  obtain ⟨b, following, hbytes, hread⟩ := readChar_encodeChar c rest
  rw [hbytes, List.cons_append, chars, hread, List.drop_left']
  rfl

theorem chars_flatMap_encodeChar (cs : List Char) :
    chars (cs.flatMap encodeChar) = cs.map some := by
  induction cs with
  | nil => rw [List.flatMap_nil, chars, List.map_nil]
  | cons c cs ih => rw [List.flatMap_cons, chars_encodeChar, ih, List.map_cons]

/-- A text is read back from its bytes. -/
theorem decode?_encode (s : String) : decode? (encode s) = some s := by
  have hall : ∀ cs : List Char, (cs.map some).mapM id = some cs := by
    intro cs
    induction cs with
    | nil => rfl
    | cons c cs ih => simp [List.mapM_cons, ih]
  rw [decode?, encode, chars_flatMap_encodeChar, hall, Option.map_some, String.ofList_toList]

end RunnerFleet.Utf8
