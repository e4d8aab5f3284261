import Wagebook.Json.Bytes
import Wagebook.Text.Base64

/-!
Bytes are read back from their text in base64, and texts from their bytes in UTF-8. No text in
base64 holds a dot, which separates the parts of a token.
-/

namespace Wagebook

namespace Text

namespace Base64

/-- Each character of the alphabet is read as the number that it was written for. -/
def Legible (alphabet : Base64) : Prop := ∀ n < 64, alphabet.value? (alphabet.digit n) = some n

instance : DecidablePred Legible := fun alphabet =>
  inferInstanceAs (Decidable (∀ n < 64, alphabet.value? (alphabet.digit n) = some n))

theorem legible_url : url.Legible := by
  decide

theorem ofNat_eq {a : UInt8} {n : Nat} (h : n = a.toNat) : UInt8.ofNat n = a := by
  rw [h, UInt8.ofNat_toNat]

theorem four_digits (n : Nat) :
    n / 262144 * 262144 + n / 4096 % 64 * 4096 + n / 64 % 64 * 64 + n % 64 = n := by
  omega

theorem three_digits (n : Nat) : n / 4096 * 4096 + n / 64 % 64 * 64 + n % 64 = n := by
  omega

theorem decode?_encode {alphabet : Base64} (legible : alphabet.Legible) (bytes : List UInt8) :
    alphabet.decode? (alphabet.encode bytes) = some bytes := by
  have low (n : Nat) := legible (n % 64) (Nat.mod_lt n (by decide))
  induction bytes using encode.induct with
  | case1 a b c rest ih =>
      have := a.toNat_lt
      have := b.toNat_lt
      have := c.toNat_lt
      obtain ⟨digits, read, spelt⟩ := Option.bind_eq_some_iff.mp ih
      rw [encode]
      generalize total : a.toNat * 65536 + b.toNat * 256 + c.toNat = n
      have high : n / 262144 < 64 := by omega
      have first : UInt8.ofNat (n / 65536) = a := ofNat_eq (by omega)
      have second : UInt8.ofNat (n / 256 % 256) = b := ofNat_eq (by omega)
      have third : UInt8.ofNat (n % 256) = c := ofNat_eq (by omega)
      simp [decode?, legible _ high, low, read, bytes?, four_digits, spelt, first, second, third]
  | case2 a b =>
      have := a.toNat_lt
      have := b.toNat_lt
      rw [encode]
      generalize total : a.toNat * 1024 + b.toNat * 4 = n
      have high : n / 4096 < 64 := by omega
      have padded : n % 4 = 0 := by omega
      have first : UInt8.ofNat (n / 1024) = a := ofNat_eq (by omega)
      have second : UInt8.ofNat (n / 4 % 256) = b := ofNat_eq (by omega)
      simp [decode?, legible _ high, low, bytes?, three_digits, padded, first, second]
  | case3 a =>
      have := a.toNat_lt
      rw [encode]
      have high : a.toNat / 4 < 64 := by omega
      have padded : a.toNat * 16 % 64 % 16 = 0 := by omega
      have first : UInt8.ofNat ((a.toNat / 4 * 64 + a.toNat * 16 % 64) / 16) = a :=
        ofNat_eq (by omega)
      simp [decode?, legible _ high, low, bytes?, padded, first]
  | case4 => rfl

/-- There are only characters of the alphabet in a text. -/
theorem exists_digit {alphabet : Base64} {bytes : List UInt8} {c : Char}
    (mem : c ∈ alphabet.encode bytes) : ∃ n < 64, c = alphabet.digit n := by
  have low (n : Nat) : n % 64 < 64 := Nat.mod_lt n (by decide)
  induction bytes using encode.induct with
  | case1 a b d rest ih =>
      have := a.toNat_lt
      have := b.toNat_lt
      have := d.toNat_lt
      have high : (a.toNat * 65536 + b.toNat * 256 + d.toNat) / 262144 < 64 := by omega
      simp only [encode, List.mem_cons] at mem
      rcases mem with rfl | rfl | rfl | rfl | mem
      · exact ⟨_, high, rfl⟩
      · exact ⟨_, low _, rfl⟩
      · exact ⟨_, low _, rfl⟩
      · exact ⟨_, low _, rfl⟩
      · exact ih mem
  | case2 a b =>
      have := a.toNat_lt
      have := b.toNat_lt
      have high : (a.toNat * 1024 + b.toNat * 4) / 4096 < 64 := by omega
      simp only [encode, List.mem_cons, List.not_mem_nil, or_false] at mem
      rcases mem with rfl | rfl | rfl
      · exact ⟨_, high, rfl⟩
      · exact ⟨_, low _, rfl⟩
      · exact ⟨_, low _, rfl⟩
  | case3 a =>
      have := a.toNat_lt
      have high : a.toNat / 4 < 64 := by omega
      simp only [encode, List.mem_cons, List.not_mem_nil, or_false] at mem
      rcases mem with rfl | rfl
      · exact ⟨_, high, rfl⟩
      · exact ⟨_, low _, rfl⟩
  | case4 => cases mem

theorem dot_not_mem_encode (bytes : List UInt8) : '.' ∉ url.encode bytes := by
  intro mem
  obtain ⟨n, small, dot⟩ := exists_digit mem
  have all : ∀ n < 64, '.' ≠ url.digit n := by decide
  exact all n small dot

theorem visible_of_mem_encode {bytes : List UInt8} {c : Char} (mem : c ∈ url.encode bytes) :
    32 ≤ c.toNat ∧ c.toNat < 127 := by
  obtain ⟨n, small, rfl⟩ := exists_digit mem
  have all : ∀ n < 64, 32 ≤ (url.digit n).toNat ∧ (url.digit n).toNat < 127 := by decide
  exact all n small

end Base64

theorem toList_loop (bytes : ByteArray) (start : Nat) (seen : List UInt8) :
    ByteArray.toList.loop bytes start seen = seen.reverse ++ bytes.data.toList.drop start := by
  fun_induction ByteArray.toList.loop bytes start seen with
  | case1 start seen inside ih =>
      have length : start < bytes.data.toList.length := inside
      have first : bytes.get! start = bytes.data.toList[start] := by
        cases bytes with
        | mk data => exact getElem!_pos data start inside
      rw [ih, List.drop_eq_getElem_cons length, first, List.reverse_cons, List.append_assoc,
        List.singleton_append]
  | case2 start seen outside =>
      rw [List.drop_eq_nil_of_le (Nat.le_of_not_lt outside), List.append_nil]

theorem utf8_eq (s : String) : utf8 s = s.toByteArray.data.toList := by
  change ByteArray.toList.loop s.toByteArray 0 [] = _
  rw [toList_loop, List.reverse_nil, List.nil_append, List.drop_zero]

theorem ofUtf8?_utf8 (s : String) : ofUtf8? (utf8 s) = some s := by
  rw [ofUtf8?, utf8_eq, Array.toArray_toList, String.fromUTF8?, dif_pos s.isValidUTF8]
  rfl

theorem zero_not_mem_utf8EncodeChar {c : Char} (h : c ≠ '\x00') :
    0 ∉ String.utf8EncodeChar c := by
  have pos : c.val.toNat ≠ 0 := fun zero => h (Char.ext (UInt32.toNat_inj.mp zero))
  have other {n : Nat} (lt : n < 256) (ne : n ≠ 0) : 0 ≠ UInt8.ofNat n := by
    intro eq
    have := congrArg UInt8.toNat eq
    rw [UInt8.toNat_ofNat_of_lt' lt] at this
    exact ne this.symm
  have continues (n : Nat) := other (n := n % 64 + 128) (by omega) (by omega)
  rw [String.utf8EncodeChar.eq_1]
  generalize c.val.toNat = n at pos
  split
  · simp [other (n := n) (by omega) pos]
  split
  · have first := other (n := n / 64 % 32 + 192) (by omega) (by omega)
    simp only [List.mem_cons, first, continues, List.not_mem_nil, or_self, not_false_eq_true]
  split
  · have first := other (n := n / 4096 % 16 + 224) (by omega) (by omega)
    simp only [List.mem_cons, first, continues, List.not_mem_nil, or_self, not_false_eq_true]
  · have first := other (n := n / 262144 % 8 + 240) (by omega) (by omega)
    simp only [List.mem_cons, first, continues, List.not_mem_nil, or_self, not_false_eq_true]

theorem zero_not_mem_utf8 {s : String} (h : '\x00' ∉ s.toList) : 0 ∉ utf8 s := by
  rw [utf8_eq, ← String.utf8Encode_toList, List.utf8Encode, List.toList_data_toByteArray,
    List.mem_flatMap]
  rintro ⟨c, mem, zero⟩
  exact zero_not_mem_utf8EncodeChar (fun eq => h (eq ▸ mem)) zero

end Text

theorem Json.charsOf?_utf8 {s : String} (h : '\x00' ∉ s.toList) :
    charsOf? (Text.utf8 s) = some s.toList := by
  rw [charsOf?, if_neg (by simpa using Text.zero_not_mem_utf8 h), Text.ofUtf8?_utf8]

end Wagebook
