import DeadCode.Encoding.Wide
import DeadCode.Proofs.Utf8

/-!
# Reading UTF-16 and UTF-32 back

The bytes of a unit give its number back in either order (`Order.number_bytes`). So a reader takes exactly the bytes of
one character off the front of whatever follows them (`readsBack16`, `readsBack32`), and a text that was written after its
mark is read as it was (`decodeMarked_write`).
-/

namespace DeadCode
set_option autoImplicit false

/-- The reader takes exactly what the writer puts down for a character, and gives the character back. -/
def ReadsBack (read : UInt8 → List UInt8 → Reading) (write : Char → List UInt8) : Prop :=
  ∀ c rest, ∃ b bs, write c ++ rest = b :: bs ∧ read b bs = .char c (write c).length

namespace ReadsBack

variable {read : UInt8 → List UInt8 → Reading} {write : Char → List UInt8}

theorem length_le (back : ReadsBack read write) (cs : List Char) : cs.length ≤ (cs.flatMap write).length := by
  induction cs with
  | nil => exact Nat.le_refl 0
  | cons c cs ih =>
    obtain ⟨b, bs, eq, -⟩ := back c []
    rw [List.append_nil] at eq
    rw [List.flatMap_cons, List.length_append, eq, List.length_cons, List.length_cons]
    omega

theorem decodeBy (back : ReadsBack read write) (cs : List Char) {fuel : Nat} (pos : Nat) (acc : List Char)
    (enough : cs.length ≤ fuel) : DeadCode.decodeBy read fuel pos (cs.flatMap write) acc = .ok (acc.reverse ++ cs) := by
  induction cs generalizing fuel pos acc with
  | nil => cases fuel <;> simp [DeadCode.decodeBy]
  | cons c cs ih =>
    obtain ⟨fuel, rfl⟩ : ∃ n, fuel = n + 1 := ⟨fuel - 1, by simp at enough; omega⟩
    obtain ⟨b, bs, eq, got⟩ := back c (cs.flatMap write)
    have left : (b :: bs).drop (write c).length = cs.flatMap write := by rw [← eq, List.drop_left]
    rw [List.flatMap_cons, eq, DeadCode.decodeBy, got]
    simp only
    rw [left, ih _ _ (by simpa using enough), List.reverse_cons, List.append_assoc]
    rfl

end ReadsBack

namespace Wide

section Units

theorem Order.length_bytes (o : Order) (size n : Nat) : (o.bytes size n).length = size := by
  cases o <;> simp [Order.bytes]

theorem Order.bytes_big (size n : Nat) : Order.big.bytes size n = (Order.little.bytes size n).reverse := rfl

theorem Order.bytes_little_succ (size n : Nat) :
    Order.little.bytes (size + 1) n = UInt8.ofNat (n % 256) :: Order.little.bytes size (n / 256) := by
  have first : n / Nat.pow 256 0 % 256 = n % 256 := by rw [show Nat.pow 256 0 = 1 from rfl, Nat.div_one]
  have later : ∀ i, n / Nat.pow 256 (i + 1) % 256 = n / 256 / Nat.pow 256 i % 256 := fun i => by
    rw [show Nat.pow 256 (i + 1) = 256 * Nat.pow 256 i from Nat.pow_succ', Nat.div_div_eq_div_mul]
  simp only [Order.bytes, List.range_succ_eq_map, List.map_cons, List.map_map, Function.comp_def, first, later]

theorem Order.number_big_reverse (bs : List UInt8) : Order.big.number bs.reverse = Order.little.number bs :=
  List.foldl_reverse

theorem Order.number_little_cons (b : UInt8) (bs : List UInt8) :
    Order.little.number (b :: bs) = Order.little.number bs * 256 + b.toNat := rfl

theorem Order.number_little_bytes {size n : Nat} (small : n < Nat.pow 256 size) :
    Order.little.number (Order.little.bytes size n) = n := by
  induction size generalizing n with
  | zero =>
    have small : n < 1 := small
    simp only [Order.bytes, List.range_zero, List.map_nil, Order.number, List.foldr_nil]
    omega
  | succ size ih =>
    have next : Nat.pow 256 (size + 1) = 256 * Nat.pow 256 size := Nat.pow_succ'
    have rest : n / 256 < Nat.pow 256 size := Nat.div_lt_of_lt_mul (next ▸ small)
    rw [Order.bytes_little_succ, Order.number_little_cons, ih rest, Utf8.toNat_ofNat_of_lt (Nat.mod_lt n (by decide))]
    omega

/-- The bytes of a unit give its number back. -/
theorem Order.number_bytes (o : Order) {size n : Nat} (small : n < Nat.pow 256 size) : o.number (o.bytes size n) = n := by
  cases o with
  | little => exact Order.number_little_bytes small
  | big => rw [Order.bytes_big, Order.number_big_reverse, Order.number_little_bytes small]

theorem Order.bytes_two (o : Order) {n : Nat} (small : n < 0x10000) :
    ∃ b c, o.bytes 2 n = [b, c] ∧ o.number [b, c] = n := by
  have length := o.length_bytes 2 n
  match eq : o.bytes 2 n, length with
  | [b, c], _ => exact ⟨b, c, rfl, eq ▸ o.number_bytes small⟩

theorem Order.bytes_four (o : Order) {n : Nat} (small : n < 0x100000000) :
    ∃ b c d e, o.bytes 4 n = [b, c, d, e] ∧ o.number [b, c, d, e] = n := by
  have length := o.length_bytes 4 n
  match eq : o.bytes 4 n, length with
  | [b, c, d, e], _ => exact ⟨b, c, d, e, rfl, eq ▸ o.number_bytes small⟩

end Units

section Characters

theorem valid_toNat (c : Char) : c.toNat < 0xd800 ∨ 0xdfff < c.toNat ∧ c.toNat < 0x110000 := c.valid

theorem readsBack16 (o : Order) : ReadsBack (read16 o) (write16 o) := by
  intro c rest
  have valid := valid_toNat c
  rw [write16]
  split
  · next short =>
    obtain ⟨b, b', eq, number⟩ := o.bytes_two short
    have low : isLow c.toNat = false := by simp only [isLow, Bool.and_eq_false_iff, decide_eq_false_iff_not]; omega
    have high : isHigh c.toNat = false := by simp only [isHigh, Bool.and_eq_false_iff, decide_eq_false_iff_not]; omega
    refine ⟨b, b' :: rest, by rw [eq]; rfl, ?_⟩
    simp only [read16, number, low, high, Bool.false_eq_true, if_false, Char.ofNat_toNat, o.length_bytes]
  · next long =>
    -- Two halves of ten bits each.
    obtain ⟨b, b', first, number⟩ := o.bytes_two (show 0xd800 + (c.toNat - 0x10000) / 1024 < 0x10000 by omega)
    obtain ⟨d, d', second, number'⟩ := o.bytes_two (show 0xdc00 + (c.toNat - 0x10000) % 1024 < 0x10000 by omega)
    have low : isLow (0xd800 + (c.toNat - 0x10000) / 1024) = false := by
      simp only [isLow, Bool.and_eq_false_iff, decide_eq_false_iff_not]; omega
    have high : isHigh (0xd800 + (c.toNat - 0x10000) / 1024) = true := by
      simp only [isHigh, Bool.and_eq_true, decide_eq_true_eq]; omega
    have low' : isLow (0xdc00 + (c.toNat - 0x10000) % 1024) = true := by
      simp only [isLow, Bool.and_eq_true, decide_eq_true_eq]; omega
    have value : 0x10000 + (0xd800 + (c.toNat - 0x10000) / 1024 - 0xd800) * 1024 +
        (0xdc00 + (c.toNat - 0x10000) % 1024 - 0xdc00) = c.toNat := by omega
    refine ⟨b, b' :: d :: d' :: rest, by rw [first, second]; rfl, ?_⟩
    simp only [read16, number, number', low, high, low', value, Bool.false_eq_true, if_false, if_true, Char.ofNat_toNat,
      List.length_append, o.length_bytes]

theorem readsBack32 (o : Order) : ReadsBack (read32 o) (write32 o) := by
  intro c rest
  have valid := valid_toNat c
  obtain ⟨b, b', d, d', eq, number⟩ := o.bytes_four (show c.toNat < 0x100000000 by omega)
  have surrogate : (decide (0xd800 ≤ c.toNat) && decide (c.toNat < 0xe000)) = false := by
    simp only [Bool.and_eq_false_iff, decide_eq_false_iff_not]
    omega
  have small : c.toNat < 0x110000 := by omega
  refine ⟨b, b' :: d :: d' :: rest, by rw [write32, eq]; rfl, ?_⟩
  simp only [read32, number, surrogate, small, write32, o.length_bytes, Bool.false_eq_true, if_false, if_true,
    Char.ofNat_toNat]

end Characters

/-- A text that was written after its mark. -/
theorem decodeMarked_write {read : Order → UInt8 → List UInt8 → Reading} {write : Order → Char → List UInt8} {o : Order}
    (back : ReadsBack (read o) (write o)) {size : Nat} (apart : Order.big.bytes size 0xfeff ≠ Order.little.bytes size 0xfeff)
    (cs : List Char) : decodeMarked read size (o.bytes size 0xfeff ++ cs.flatMap (write o)) = .ok cs := by
  have mark : (o.bytes size 0xfeff ++ cs.flatMap (write o)).take size = o.bytes size 0xfeff :=
    List.take_left' (o.length_bytes size 0xfeff)
  have rest : (o.bytes size 0xfeff ++ cs.flatMap (write o)).drop size = cs.flatMap (write o) :=
    List.drop_left' (o.length_bytes size 0xfeff)
  have enough : cs.length ≤ (o.bytes size 0xfeff ++ cs.flatMap (write o)).length := by
    have least := back.length_le cs
    rw [List.length_append]
    omega
  have text := back.decodeBy cs size [] enough
  rw [decodeMarked]
  simp only [mark, rest]
  cases o with
  | little => rw [if_pos (beq_self_eq_true _), text]; rfl
  | big => rw [if_neg (by simpa using apart), if_pos (beq_self_eq_true _), text]; rfl

end Wide
end DeadCode
