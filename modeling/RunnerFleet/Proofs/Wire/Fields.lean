import Mathlib
import RunnerFleet.Wire.Field

/-!
# Fields are read as they were written

A number below `2 ^ 64` fits in the ten places that a reader allows. With this the key of a field,
its number or its length are read back whatever follows them, and so is a sequence of fields
(`fields?_write`). Only numbers and chunks are ever written.
-/

namespace RunnerFleet.Wire

/-! ## Numbers -/

theorem putNumber_of_lt {n : Nat} (h : n < 128) : putNumber n = [UInt8.ofNat n] := by
  rw [putNumber, if_pos h]

/-- With one bit for the last place, `p` further places hold what is below `2 * 128 ^ p`. -/
theorem getDigits?_putNumber (rest : List UInt8) (p n : Nat) (h : n < 2 * 128 ^ p) :
    getDigits? (p + 1) (putNumber n ++ rest) = some (n, rest) := by
  induction p generalizing n with
  | zero =>
    have hone : ¬ n > 1 := by omega
    have hbyte : (UInt8.ofNat n).toNat = n := UInt8.toNat_ofNat_of_lt' (show n < 256 by omega)
    rw [putNumber_of_lt (by omega), List.singleton_append, getDigits?, hbyte, if_pos (by omega),
      if_neg fun hlast => hone hlast.2]
  | succ p ih =>
    rw [putNumber]
    split
    · next hsmall =>
      have hbyte : (UInt8.ofNat n).toNat = n := UInt8.toNat_ofNat_of_lt' (show n < 256 by omega)
      rw [List.singleton_append, getDigits?, hbyte, if_pos hsmall,
        if_neg fun hlast => absurd hlast.1 (Nat.succ_ne_zero p)]
    · next hlarge =>
      have hbyte : (UInt8.ofNat (n % 128 + 128)).toNat = n % 128 + 128 :=
        UInt8.toNat_ofNat_of_lt' (show n % 128 + 128 < 256 by omega)
      have hdigits : n % 128 + 128 - 128 + 128 * (n / 128) = n := by omega
      have hhigh : n / 128 < 2 * 128 ^ p := by
        rw [Nat.pow_succ] at h
        omega
      rw [List.cons_append, getDigits?, hbyte, if_neg (by omega), ih _ hhigh]
      simp only [Option.map_some, hdigits]

theorem getNumber?_putNumber {n : Nat} (h : n < 2 ^ 64) (rest : List UInt8) :
    getNumber? (putNumber n ++ rest) = some (n, rest) :=
  getDigits?_putNumber rest 9 n (by simpa using h)

theorem putNumber_ne_nil (n : Nat) : putNumber n ≠ [] := by
  rw [putNumber]
  split
  · exact List.cons_ne_nil _ _
  · exact List.cons_ne_nil _ _

/-! ## Fields -/

theorem getKey?_putKey {tag kind : Nat} (htag : 1 ≤ tag) (htag' : tag < 2 ^ 29) (hkind : kind ≤ 5)
    (rest : List UInt8) : getKey? (putKey tag kind ++ rest) = some (tag, kind, rest) := by
  have hsize : UInt32.size = 2 ^ 32 := rfl
  have hdiv : (tag * 8 + kind) / 8 = tag := by omega
  have hmod : (tag * 8 + kind) % 8 = kind := by omega
  have hkey : tag * 8 + kind < UInt32.size := by omega
  simp only [getKey?, putKey, getNumber?_putNumber (show tag * 8 + kind < 2 ^ 64 by omega),
    Option.bind_eq_bind, Option.bind_some, hdiv, hmod]
  rw [if_pos ⟨hkey, htag, hkind⟩]

theorem splitBytes?_append (bytes rest : List UInt8) :
    splitBytes? bytes.length (bytes ++ rest) = some (bytes, rest) := by
  rw [splitBytes?, if_pos (by simp), List.splitAt_eq, List.take_left', List.drop_left']
  · rfl
  · rfl

/-- The bytes of a field. -/
def Field.write (f : Field) : List UInt8 :=
  match f.payload with
  | .number n => putKey f.tag 0 ++ putNumber n
  | .chunk bytes => putChunk f.tag bytes
  | _ => []

/-- The field can be written: its tag is in range, and it is a chunk or a number of 64 bits. -/
def Field.Writable (f : Field) : Prop :=
  1 ≤ f.tag ∧ f.tag < 2 ^ 29 ∧ match f.payload with
    | .number n => n < 2 ^ 64
    | .chunk _ => True
    | _ => False

section

variable {f : Field} {fs : List Field}

theorem Field.write_ne_nil (h : f.Writable) : f.write ≠ [] := by
  obtain ⟨tag, payload⟩ := f
  obtain ⟨-, -, hpayload⟩ := h
  cases payload with
  | number n => simp [write, putKey, putNumber_ne_nil]
  | chunk bytes => simp [write, putChunk, putKey, putNumber_ne_nil]
  | eightBytes bytes | group | fourBytes bytes => exact hpayload.elim

theorem getField?_write (h : f.Writable) (hlength : f.write.length < 2 ^ 64) (depth : Nat)
    (rest : List UInt8) : getField? depth (f.write ++ rest) = some (f, rest) := by
  obtain ⟨tag, payload⟩ := f
  obtain ⟨htag, htag', hpayload⟩ := h
  dsimp only at htag htag' hpayload
  cases payload with
  | number n =>
    simp only [getField?, Field.write, List.append_assoc, getKey?_putKey htag htag' (Nat.zero_le 5),
      getNumber?_putNumber hpayload, Option.bind_eq_bind, Option.bind_some]
  | chunk bytes =>
    simp only [Field.write, putChunk, List.length_append] at hlength
    have hbytes : bytes.length < 2 ^ 64 := by omega
    simp only [getField?, Field.write, putChunk, List.append_assoc,
      getKey?_putKey htag htag' (show 2 ≤ 5 by omega), getNumber?_putNumber hbytes,
      splitBytes?_append, Option.bind_eq_bind, Option.bind_some]
  | eightBytes bytes | group | fourBytes bytes => exact hpayload.elim

theorem fieldsWithin?_succ {bytes : List UInt8} (h : bytes ≠ []) (fuel depth : Nat) :
    fieldsWithin? (fuel + 1) depth bytes = (do
      let (field, rest) ← getField? depth bytes
      let others ← fieldsWithin? fuel depth rest
      some (field :: others)) := by
  cases bytes with
  | nil => exact absurd rfl h
  | cons b rest => rfl

theorem fieldsWithin?_write (depth : Nat) (h : ∀ f ∈ fs, f.Writable)
    (hlength : (fs.flatMap Field.write).length < 2 ^ 64) {fuel : Nat}
    (hfuel : (fs.flatMap Field.write).length ≤ fuel) :
    fieldsWithin? fuel depth (fs.flatMap Field.write) = some fs := by
  induction fs generalizing fuel with
  | nil =>
    cases fuel with
    | zero => rfl
    | succ fuel => rfl
  | cons f fs ih =>
    have hf := h f List.mem_cons_self
    have hnonempty := Field.write_ne_nil hf
    have hpositive := List.length_pos_iff.2 hnonempty
    rw [List.flatMap_cons, List.length_append] at hlength hfuel
    obtain ⟨fuel, rfl⟩ : ∃ n, fuel = n + 1 := ⟨fuel - 1, by omega⟩
    have hrest : fieldsWithin? fuel depth (fs.flatMap Field.write) = some fs :=
      ih (fun g hg => h g (List.mem_cons_of_mem f hg)) (by omega) (by omega)
    have hbytes : f.write ++ fs.flatMap Field.write ≠ [] :=
      fun hnil => hnonempty (List.append_eq_nil_iff.1 hnil).1
    rw [List.flatMap_cons, fieldsWithin?_succ hbytes, getField?_write hf (by omega)]
    simp only [Option.bind_eq_bind, Option.bind_some, hrest]

/-- Fields are read back from the bytes that they are written as. -/
theorem fields?_write (depth : Nat) (h : ∀ f ∈ fs, f.Writable)
    (hlength : (fs.flatMap Field.write).length < 2 ^ 64) :
    fields? depth (fs.flatMap Field.write) = some fs :=
  fieldsWithin?_write depth h hlength (Nat.le_refl _)

theorem length_chunk_le {tag : Nat} {bytes : List UInt8} (h : ⟨tag, .chunk bytes⟩ ∈ fs) :
    bytes.length ≤ (fs.flatMap Field.write).length := by
  obtain ⟨before, after, rfl⟩ := List.append_of_mem h
  simp only [List.flatMap_append, List.flatMap_cons, List.length_append, Field.write, putChunk]
  omega

end

end RunnerFleet.Wire
