import Mathlib.Algebra.Field.Basic
import Mathlib.Logic.Equiv.Defs
import Mathlib.Tactic.Ring
import Vectis.Core.Error

/-!
# The byte field of the sharing code

`gf_mul`, `gf_inverse` and `gf_div` of `core/sharing.rs` on bytes, with xor as addition. Multiplication is linear in
both arguments (`gfMul_xor_left`, `gfMul_xor_right`), so its laws need only be checked on the eight powers of two
(`linear_ext`). Squaring is linear too, so `a ^ 256 = a`, and `gf_inverse a = a ^ 254` is the inverse. Hence the bytes
are a field (`Gf256`).
-/

namespace Vectis.Core.Sharing

/-! ## The source's arithmetic -/

/-- `bit_mask`: all ones for an odd argument, else zero. -/
def bitMask (bit : UInt8) : UInt8 := 0 - (bit &&& 1)

/-- The update of `left` in one round of `gf_mul`: multiplication by `x` modulo `x⁸ + x⁴ + x³ + x + 1`. -/
def gfDouble (left : UInt8) : UInt8 := (left <<< 1) ^^^ ((0x1b : UInt8) &&& bitMask (left >>> 7))

/-- The rounds of `gf_mul`. -/
def gfMulLoop : Nat → UInt8 → UInt8 → UInt8 → UInt8
  | 0, product, _, _ => product
  | n + 1, product, left, right =>
    gfMulLoop n (product ^^^ (left &&& bitMask (right &&& 1))) (gfDouble left) (right >>> 1)

def gfMul (left right : UInt8) : UInt8 := gfMulLoop 8 0 left right

/-- The rounds of `gf_inverse`, from bit `8 - n` of the exponent 254. -/
def gfInverseLoop : Nat → UInt8 → UInt8 → UInt8
  | 0, result, _ => result
  | n + 1, result, base =>
    let multiplied := gfMul result base
    let mask := bitMask (((254 : UInt8) >>> (7 - n).toUInt8) &&& 1)
    gfInverseLoop n ((result &&& ~~~mask) ||| (multiplied &&& mask)) (gfMul base base)

def gfInverse (value : UInt8) : UInt8 := gfInverseLoop 8 1 value

def gfDiv (left right : UInt8) : Res UInt8 :=
  if right = 0 then .error (.invalidInput "shares contain duplicate indexes") else .ok (gfMul left (gfInverse right))

/-! ## Linearity -/

section Linearity

/-- A property of all bytes, checked on the 256 numbers. -/
theorem forall_byte {p : UInt8 → Prop} (h : ∀ n : Fin 256, p (UInt8.ofNat n)) (b : UInt8) : p b := by
  have hb : UInt8.ofNat b.toNat = b := UInt8.ofNat_toNat
  rw [← hb]
  exact h ⟨b.toNat, b.toNat_lt⟩

theorem xor_and (a b c : UInt8) : (a ^^^ b) &&& c = (a &&& c) ^^^ (b &&& c) := by
  apply UInt8.toBitVec_inj.1
  ext i hi
  simp [Bool.and_xor_distrib_right]

theorem and_xor (a b c : UInt8) : a &&& (b ^^^ c) = (a &&& b) ^^^ (a &&& c) := by
  apply UInt8.toBitVec_inj.1
  ext i hi
  simp [Bool.and_xor_distrib_left]

theorem xor_shiftLeft_one (a b : UInt8) : (a ^^^ b) <<< 1 = (a <<< 1) ^^^ (b <<< 1) :=
  UInt8.toBitVec_inj.1 (BitVec.shiftLeft_xor_distrib _ _ _)

theorem xor_shiftRight (a b c : UInt8) : (a ^^^ b) >>> c = (a >>> c) ^^^ (b >>> c) :=
  UInt8.toBitVec_inj.1 (BitVec.ushiftRight_xor_distrib _ _ _)

theorem bitMask_xor (x y : UInt8) : bitMask (x ^^^ y) = bitMask x ^^^ bitMask y := by
  have h : ∀ z : UInt8, z &&& 1 = 0 ∨ z &&& 1 = 1 := forall_byte (by decide +kernel)
  simp only [bitMask, xor_and]
  rcases h x with hx | hx <;> rcases h y with hy | hy <;> rw [hx, hy] <;> decide

theorem gfDouble_xor (a b : UInt8) : gfDouble (a ^^^ b) = gfDouble a ^^^ gfDouble b := by
  simp only [gfDouble, xor_shiftLeft_one, xor_shiftRight, bitMask_xor, and_xor]
  ac_rfl

theorem gfMulLoop_xor_left : ∀ (n : Nat) (p q a b r : UInt8),
    gfMulLoop n (p ^^^ q) (a ^^^ b) r = gfMulLoop n p a r ^^^ gfMulLoop n q b r
  | 0, _, _, _, _, _ => rfl
  | n + 1, p, q, a, b, r => by
    simp only [gfMulLoop, gfDouble_xor, xor_and]
    rw [← gfMulLoop_xor_left n]
    congr 1
    ac_rfl

theorem gfMulLoop_xor_right : ∀ (n : Nat) (p q a r s : UInt8),
    gfMulLoop n (p ^^^ q) a (r ^^^ s) = gfMulLoop n p a r ^^^ gfMulLoop n q a s
  | 0, _, _, _, _, _ => rfl
  | n + 1, p, q, a, r, s => by
    simp only [gfMulLoop, xor_and, bitMask_xor, and_xor, xor_shiftRight]
    rw [← gfMulLoop_xor_right n]
    congr 1
    ac_rfl

theorem gfMul_xor_left (a b c : UInt8) : gfMul (a ^^^ b) c = gfMul a c ^^^ gfMul b c :=
  gfMulLoop_xor_left 8 0 0 a b c

theorem gfMul_xor_right (a b c : UInt8) : gfMul a (b ^^^ c) = gfMul a b ^^^ gfMul a c :=
  gfMulLoop_xor_right 8 0 0 a b c

/-- A byte is the xor of its bits. -/
theorem byte_eq_bits : ∀ a : UInt8, a = (a &&& 1) ^^^ (a &&& 2) ^^^ (a &&& 4) ^^^ (a &&& 8) ^^^ (a &&& 16) ^^^
    (a &&& 32) ^^^ (a &&& 64) ^^^ (a &&& 128) :=
  forall_byte (by decide +kernel)

/-- A bit of a byte is absent or a power of two. -/
theorem bit_cases : ∀ a : UInt8, ∀ k ∈ [(1 : UInt8), 2, 4, 8, 16, 32, 64, 128], a &&& k = 0 ∨ a &&& k = k :=
  forall_byte (by decide +kernel)

/-- Linear maps that agree on the powers of two are equal. -/
theorem linear_ext {f g : UInt8 → UInt8} (hf : ∀ a b, f (a ^^^ b) = f a ^^^ f b) (hg : ∀ a b, g (a ^^^ b) = g a ^^^ g b)
    (h : ∀ k ∈ [(1 : UInt8), 2, 4, 8, 16, 32, 64, 128], f k = g k) (a : UInt8) : f a = g a := by
  have h0 : f 0 = g 0 := by
    have hf0 := hf 0 0
    have hg0 := hg 0 0
    simp only [UInt8.xor_self] at hf0 hg0
    rw [hf0, hg0]
  have hbit : ∀ k ∈ [(1 : UInt8), 2, 4, 8, 16, 32, 64, 128], f (a &&& k) = g (a &&& k) := by
    intro k hk
    rcases bit_cases a k hk with hz | hz <;> rw [hz]
    · exact h0
    · exact h k hk
  rw [byte_eq_bits a]
  simp only [hf, hg]
  rw [hbit 1 (by decide), hbit 2 (by decide), hbit 4 (by decide), hbit 8 (by decide), hbit 16 (by decide),
    hbit 32 (by decide), hbit 64 (by decide), hbit 128 (by decide)]

end Linearity

/-! ## The field -/

section Field

theorem gfMul_comm (a b : UInt8) : gfMul a b = gfMul b a := by
  refine linear_ext (f := fun a => gfMul a b) (g := fun a => gfMul b a) (fun x y => gfMul_xor_left x y b)
    (fun x y => gfMul_xor_right b x y) (fun k hk => ?_) a
  refine linear_ext (f := fun b => gfMul k b) (g := fun b => gfMul b k) (fun x y => gfMul_xor_right k x y)
    (fun x y => gfMul_xor_left x y k) (fun l hl => ?_) b
  revert k l
  decide +kernel

theorem gfMul_assoc (a b c : UInt8) : gfMul (gfMul a b) c = gfMul a (gfMul b c) := by
  refine linear_ext (f := fun a => gfMul (gfMul a b) c) (g := fun a => gfMul a (gfMul b c))
    (fun x y => by simp only [gfMul_xor_left]) (fun x y => by simp only [gfMul_xor_left]) (fun k hk => ?_) a
  refine linear_ext (f := fun b => gfMul (gfMul k b) c) (g := fun b => gfMul k (gfMul b c))
    (fun x y => by simp only [gfMul_xor_left, gfMul_xor_right])
    (fun x y => by simp only [gfMul_xor_left, gfMul_xor_right]) (fun l hl => ?_) b
  refine linear_ext (f := fun c => gfMul (gfMul k l) c) (g := fun c => gfMul k (gfMul l c))
    (fun x y => by simp only [gfMul_xor_right]) (fun x y => by simp only [gfMul_xor_right]) (fun m hm => ?_) c
  revert k l m
  decide +kernel

theorem gfMul_one : ∀ a : UInt8, gfMul a 1 = a := forall_byte (by decide +kernel)

/-- The bytes as a field: addition is xor, the other operations are the source's. -/
structure Gf256 where
  byte : UInt8
  deriving DecidableEq

namespace Gf256

@[ext] theorem ext' {a b : Gf256} (h : a.byte = b.byte) : a = b := by cases a; cases b; cases h; rfl

instance : Zero Gf256 := ⟨⟨0⟩⟩
instance : One Gf256 := ⟨⟨1⟩⟩
instance : Add Gf256 := ⟨fun a b => ⟨a.byte ^^^ b.byte⟩⟩
instance : Sub Gf256 := ⟨fun a b => ⟨a.byte ^^^ b.byte⟩⟩
instance : Neg Gf256 := ⟨fun a => a⟩
instance : Mul Gf256 := ⟨fun a b => ⟨gfMul a.byte b.byte⟩⟩
instance : Inv Gf256 := ⟨fun a => ⟨gfInverse a.byte⟩⟩
instance : Div Gf256 := ⟨fun a b => ⟨gfMul a.byte (gfInverse b.byte)⟩⟩

@[simp] theorem byte_zero : (0 : Gf256).byte = 0 := rfl
@[simp] theorem byte_one : (1 : Gf256).byte = 1 := rfl
@[simp] theorem byte_add (a b : Gf256) : (a + b).byte = a.byte ^^^ b.byte := rfl
@[simp] theorem byte_sub (a b : Gf256) : (a - b).byte = a.byte ^^^ b.byte := rfl
@[simp] theorem byte_neg (a : Gf256) : (-a).byte = a.byte := rfl
@[simp] theorem byte_mul (a b : Gf256) : (a * b).byte = gfMul a.byte b.byte := rfl
@[simp] theorem byte_inv (a : Gf256) : (a⁻¹).byte = gfInverse a.byte := rfl
@[simp] theorem byte_div (a b : Gf256) : (a / b).byte = gfMul a.byte (gfInverse b.byte) := rfl

instance : CommRing Gf256 where
  add_assoc a b c := Gf256.ext' (UInt8.xor_assoc _ _ _)
  zero_add a := Gf256.ext' (by simp)
  add_zero a := Gf256.ext' (by simp)
  add_comm a b := Gf256.ext' (UInt8.xor_comm _ _)
  neg_add_cancel a := Gf256.ext' (by simp)
  sub_eq_add_neg a b := rfl
  left_distrib a b c := Gf256.ext' (gfMul_xor_right _ _ _)
  right_distrib a b c := Gf256.ext' (gfMul_xor_left _ _ _)
  zero_mul a := Gf256.ext' (by simpa using gfMul_xor_left a.byte a.byte a.byte)
  mul_zero a := Gf256.ext' (by simpa using gfMul_xor_right a.byte a.byte a.byte)
  mul_assoc a b c := Gf256.ext' (gfMul_assoc _ _ _)
  one_mul a := Gf256.ext' (by rw [byte_mul, gfMul_comm]; exact gfMul_one _)
  mul_one a := Gf256.ext' (gfMul_one _)
  mul_comm a b := Gf256.ext' (gfMul_comm _ _)
  nsmul := nsmulRec
  zsmul := zsmulRec

/-! ### Inverses: `gf_inverse a` is `a ^ 254`, and `a ^ 255 = 1` for `a ≠ 0` -/

theorem add_self_eq_zero (a : Gf256) : a + a = 0 := Gf256.ext' UInt8.xor_self

theorem add_sq_eq (a b : Gf256) : (a + b) ^ 2 = a ^ 2 + b ^ 2 := by
  have h : (a + b) ^ 2 = a ^ 2 + b ^ 2 + (a * b + a * b) := by ring
  rw [h, add_self_eq_zero, add_zero]

theorem byte_pow_two_pow (a : Gf256) (n : ℕ) : (a ^ 2 ^ n).byte = (fun b => gfMul b b)^[n] a.byte := by
  induction n with
  | zero => simp
  | succ n ih => rw [pow_succ, pow_mul, pow_two, byte_mul, ih, Function.iterate_succ_apply']

theorem add_pow_two_pow (a b : Gf256) (n : ℕ) : (a + b) ^ 2 ^ n = a ^ 2 ^ n + b ^ 2 ^ n := by
  induction n with
  | zero => simp
  | succ n ih => rw [pow_succ, pow_mul, ih, add_sq_eq, ← pow_mul, ← pow_mul]

/-- Every element is a root of `X ^ 256 - X`: the eighth iterate of squaring is linear and fixes the powers of two. -/
theorem pow_two_pow_eight (a : Gf256) : a ^ 2 ^ 8 = a := by
  refine Gf256.ext' (linear_ext (f := fun x => ((⟨x⟩ : Gf256) ^ 2 ^ 8).byte) (g := id) (fun x y => ?_) (fun _ _ => rfl)
    (fun k hk => ?_) a.byte)
  · exact congrArg byte (add_pow_two_pow ⟨x⟩ ⟨y⟩ 8)
  · simp only [byte_pow_two_pow]
    revert k
    decide +kernel

theorem eq_zero_or_one_of_mul_self : ∀ a : UInt8, gfMul a a = a → a = 0 ∨ a = 1 := forall_byte (by decide +kernel)

/-- The powers `a ^ 255` are idempotent, so one for `a ≠ 0`. -/
theorem pow_255 {a : Gf256} (ha : a ≠ 0) : a ^ 255 = 1 := by
  have hidem : a ^ 255 * a ^ 255 = a ^ 255 := by
    calc a ^ 255 * a ^ 255 = a ^ 2 ^ 8 * a ^ 254 := by ring
      _ = a * a ^ 254 := by rw [pow_two_pow_eight]
      _ = a ^ 255 := by ring
  rcases eq_zero_or_one_of_mul_self _ (congrArg byte hidem) with h | h
  · refine absurd ?_ ha
    calc a = a ^ 2 ^ 8 := (pow_two_pow_eight a).symm
      _ = a ^ 255 * a := by ring
      _ = 0 := by rw [show a ^ 255 = 0 from Gf256.ext' h, zero_mul]
  · exact Gf256.ext' h

/-- One round of `gf_inverse` squares the base, and multiplies the result by it where the exponent has a one. -/
theorem gfInverseLoop_succ (n : Nat) (r b : Gf256) :
    gfInverseLoop (n + 1) r.byte b.byte = gfInverseLoop n
      ((r.byte &&& ~~~bitMask (((254 : UInt8) >>> (7 - n).toUInt8) &&& 1)) |||
        ((r * b).byte &&& bitMask (((254 : UInt8) >>> (7 - n).toUInt8) &&& 1))) (b ^ 2).byte := by
  rw [gfInverseLoop, pow_two]; rfl

theorem select_none (x y : UInt8) : (x &&& ~~~(0 : UInt8)) ||| (y &&& 0) = x := by simp

theorem select_all (x y : UInt8) : (x &&& ~~~(255 : UInt8)) ||| (y &&& 255) = y := by
  have h : ∀ z : UInt8, z &&& 255 = z := forall_byte (by decide +kernel)
  rw [h y, show ~~~(255 : UInt8) = 0 by decide]
  simp

theorem gfInverse_eq (a : Gf256) : gfInverse a.byte = (a ^ 254).byte := by
  have hlow : bitMask (((254 : UInt8) >>> (7 - 7 : Nat).toUInt8) &&& 1) = 0 := by decide
  have hhigh : ∀ n < 7, bitMask (((254 : UInt8) >>> (7 - n : Nat).toUInt8) &&& 1) = 255 := by decide
  have h : gfInverse a.byte = gfInverseLoop 8 (1 : Gf256).byte a.byte := rfl
  rw [h, gfInverseLoop_succ, hlow, select_none]
  iterate 7 rw [gfInverseLoop_succ, hhigh _ (by decide), select_all]
  rw [gfInverseLoop]
  congr 1
  ring

instance : Field Gf256 where
  exists_pair_ne := ⟨0, 1, fun h => by simpa using congrArg Gf256.byte h⟩
  mul_inv_cancel a ha := Gf256.ext' (by
    rw [byte_mul, byte_inv, gfInverse_eq, ← byte_mul, ← pow_succ']
    exact congrArg byte (pow_255 ha))
  inv_zero := by decide +kernel
  div_eq_mul_inv a b := rfl
  nnqsmul := _
  qsmul := _

/-- Field elements are bytes. -/
def equivByte : Gf256 ≃ UInt8 := ⟨byte, mk, fun _ => rfl, fun _ => rfl⟩

end Gf256

end Field

end Vectis.Core.Sharing
