import Chronicle.Octets.Base64
import Chronicle.Proofs.Octets.Number

/-!
# Base64 read back

Octets are read back from the letters that they are written as: `Base64.decode_encode`. The letters
are all ASCII characters, none of them the padding.
-/
namespace Chronicle.Base64

open Octets

/-! ### Letters -/

private theorem value?_letter {n : Nat} (hn : n < 64) : value? (letter n) = some n := by
  have hall : ∀ n : Fin 64, value? (letter n) = some n.val := by decide
  exact hall ⟨n, hn⟩

private theorem letter_ne_padding {n : Nat} (hn : n < 64) : letter n ≠ '=' := by
  have hall : ∀ n : Fin 64, letter n ≠ '=' := by decide
  exact hall ⟨n, hn⟩

theorem toNat_letter_lt {n : Nat} (hn : n < 64) : (letter n).toNat < 0x80 := by
  have hall : ∀ n : Fin 64, (letter n).toNat < 0x80 := by decide
  exact hall ⟨n, hn⟩

/-! ### Groups -/

/-- A complete group does not end in padding. -/
private theorem decodeGroups_four {a b c d : Char} (ha : a ≠ '=') (hd : d ≠ '=')
    (rest : List Char) :
    decodeGroups (a :: b :: c :: d :: rest) = (do
      let a ← value? a
      let b ← value? b
      let c ← value? c
      let d ← value? d
      let more ← decodeGroups rest
      return UInt8.ofNat (a * 4 + b / 16) :: UInt8.ofNat (b % 16 * 16 + c / 4)
        :: UInt8.ofNat (c % 4 * 64 + d) :: more) := by
  rw [decodeGroups]
  · exact fun heq => absurd heq ha
  · exact fun _ heq => absurd heq hd
  · exact fun heq => absurd heq hd

private theorem decodeGroups_encode (bs : List UInt8) : decodeGroups (encode bs) = some bs := by
  -- the numbers that the letters stand for are put together again to the octets that they came from
  fun_induction encode bs with
  | case1 => rfl
  -- one octet is left over, and two letters carry it
  | case2 x a =>
    have hx := x.toNat_lt
    rw [decodeGroups, value?_letter (by omega), value?_letter (by omega)]
    · have hfirst : UInt8.ofNat (a / 4 * 4 + a % 4 * 16 / 16) = x := octet_eq (by omega)
      simp only [Option.bind_eq_bind, Option.bind_some, hfirst]
      rfl
    · exact letter_ne_padding (by omega)
  -- two octets are left over, and three letters carry them
  | case3 x y a b =>
    have hx := x.toNat_lt
    have hy := y.toNat_lt
    rw [decodeGroups, value?_letter (by omega), value?_letter (by omega),
      value?_letter (by omega)]
    · have hfirst : UInt8.ofNat (a / 4 * 4 + (a % 4 * 16 + b / 16) / 16) = x :=
        octet_eq (by omega)
      have hsecond : UInt8.ofNat ((a % 4 * 16 + b / 16) % 16 * 16 + b % 16 * 4 / 4) = y :=
        octet_eq (by omega)
      simp only [Option.bind_eq_bind, Option.bind_some, hfirst, hsecond]
      rfl
    · exact letter_ne_padding (by omega)
    · exact letter_ne_padding (by omega)
  -- three octets are four letters, and the rest follows
  | case4 x y z rest a b c ih =>
    have hx := x.toNat_lt
    have hy := y.toNat_lt
    have hz := z.toNat_lt
    rw [decodeGroups_four (letter_ne_padding (by omega)) (letter_ne_padding (by omega)),
      value?_letter (by omega), value?_letter (by omega), value?_letter (by omega),
      value?_letter (by omega), ih]
    have hfirst : UInt8.ofNat (a / 4 * 4 + (a % 4 * 16 + b / 16) / 16) = x := octet_eq (by omega)
    have hsecond : UInt8.ofNat ((a % 4 * 16 + b / 16) % 16 * 16 + (b % 16 * 4 + c / 64) / 4) = y :=
      octet_eq (by omega)
    have hthird : UInt8.ofNat ((b % 16 * 4 + c / 64) % 4 * 64 + c % 64) = z := octet_eq (by omega)
    simp only [Option.bind_eq_bind, Option.bind_some, hfirst, hsecond, hthird]
    rfl

/-! ### Whole texts -/

/-- Everything that is written is a letter or padding behind one. -/
theorem forall_encode {P : Char → Prop} (hletter : ∀ n < 64, P (letter n)) (hpadding : P '=')
    (bs : List UInt8) : ∀ c ∈ encode bs, P c := by
  -- every character is a letter with a number below 64, or padding
  fun_induction encode bs with
  | case1 => exact List.forall_mem_nil _
  | case2 x a =>
    have hx := x.toNat_lt
    simp only [List.forall_mem_cons]
    exact ⟨hletter _ (by omega), hletter _ (by omega), hpadding, hpadding, List.forall_mem_nil _⟩
  | case3 x y a b =>
    have hx := x.toNat_lt
    have hy := y.toNat_lt
    simp only [List.forall_mem_cons]
    exact ⟨hletter _ (by omega), hletter _ (by omega), hletter _ (by omega), hpadding,
      List.forall_mem_nil _⟩
  | case4 x y z rest a b c ih =>
    have hx := x.toNat_lt
    have hy := y.toNat_lt
    have hz := z.toNat_lt
    simp only [List.forall_mem_cons]
    exact ⟨hletter _ (by omega), hletter _ (by omega), hletter _ (by omega), hletter _ (by omega),
      ih⟩

private theorem head?_encode_ne_padding (bs : List UInt8) : (encode bs).head? ≠ some '=' := by
  have hletter : ∀ n < 64, some (letter n) ≠ some '=' := by
    intro n hn heq
    exact letter_ne_padding hn (Option.some.inj heq)
  fun_cases encode bs with
  | case1 => exact nofun
  | case2 x a => exact hletter _ (by have := x.toNat_lt; omega)
  | case3 x y a b => exact hletter _ (by have := x.toNat_lt; omega)
  | case4 x y z rest a b c => exact hletter _ (by have := x.toNat_lt; omega)

/-- The letters of octets stand for these octets. -/
theorem decode_encode (bs : List UInt8) : decode (encode bs) = some bs := by
  rw [decode, if_neg (head?_encode_ne_padding bs), decodeGroups_encode]

end Chronicle.Base64
