import ScriptLib.Random.Mulberry
import Mathlib

/-!
# Bytes of a Mulberry32 generator

A generator fills a buffer word by word: each 32-bit output gives four bytes, least
significant first, and the last output is cut short when the length is not a multiple of
four. So the `n` bytes are the first `n` bytes of the outputs of `⌈n / 4⌉` successive draws,
and the generator is left where those draws leave it (`fillBytes_eq`).

A 64-bit output is two 32-bit outputs, the first the low half (`nextU64_toNat`). Its eight
bytes are therefore the bytes of those two words in order (`bytesLE64_nextU64`), and filling
`8 · k` bytes gives the bytes of `k` successive 64-bit outputs (`fillBytes_eight_mul`).

Byte lists are read by their little-endian value `leValue`; two lists of one length with one
value are equal (`eq_of_leValue_eq`), which is how the byte layouts are compared.
-/

namespace ScriptLib

namespace Random

/-! ## Little-endian values -/

/-- The value of bytes read least significant first. -/
def leValue : List UInt8 → Nat
  | [] => 0
  | b :: bs => b.toNat + 256 * leValue bs

theorem leValue_append (l₁ l₂ : List UInt8) :
    leValue (l₁ ++ l₂) = leValue l₁ + 256 ^ l₁.length * leValue l₂ := by
  induction l₁ with
  | nil => simp [leValue]
  | cons b bs ih =>
    simp only [List.cons_append, leValue, ih, List.length_cons, Nat.pow_succ]
    ring

/-- Bytes of one length are determined by their value. -/
theorem eq_of_leValue_eq {l₁ l₂ : List UInt8} (hl : l₁.length = l₂.length)
    (hv : leValue l₁ = leValue l₂) : l₁ = l₂ := by
  induction l₁ generalizing l₂ with
  | nil => exact (List.length_eq_zero_iff.1 hl.symm).symm
  | cons b bs ih =>
    obtain _ | ⟨c, cs⟩ := l₂
    · cases hl
    · have hb := b.toNat_lt
      have hc := c.toNat_lt
      simp only [leValue] at hv
      have hhead : b = c := UInt8.toNat_inj.1 (by omega)
      have htail : bs = cs := ih (Nat.succ.inj hl) (by omega)
      rw [hhead, htail]

namespace Mulberry

theorem length_bytesLE (u : UInt32) : (bytesLE u).length = 4 := rfl

theorem leValue_bytesLE (u : UInt32) : leValue (bytesLE u) = u.toNat := by
  have hu := u.toNat_lt
  simp only [bytesLE, leValue, UInt32.toNat_toUInt8, UInt32.toNat_shiftRight,
    Nat.shiftRight_eq_div_pow, UInt32.reduceToNat, Nat.reduceMod, Nat.reducePow]
  omega

/-- The eight bytes of a 64-bit word, least significant first. -/
def bytesLE64 (v : UInt64) : List UInt8 :=
  [v.toUInt8, (v >>> 8).toUInt8, (v >>> 16).toUInt8, (v >>> 24).toUInt8,
    (v >>> 32).toUInt8, (v >>> 40).toUInt8, (v >>> 48).toUInt8, (v >>> 56).toUInt8]

theorem length_bytesLE64 (v : UInt64) : (bytesLE64 v).length = 8 := rfl

theorem leValue_bytesLE64 (v : UInt64) : leValue (bytesLE64 v) = v.toNat := by
  have hv := v.toNat_lt
  simp only [bytesLE64, leValue, UInt64.toNat_toUInt8, UInt64.toNat_shiftRight,
    Nat.shiftRight_eq_div_pow, UInt64.reduceToNat, Nat.reduceMod, Nat.reducePow]
  omega

/-! ## Successive draws -/

/-- The outputs of `m` successive draws by a step, and the generator they leave. -/
def draws {α : Type} (next : Mulberry → α × Mulberry) (g : Mulberry) : Nat → List α × Mulberry
  | 0 => ([], g)
  | m + 1 =>
    let (a, g₁) := next g
    let (as, g₂) := draws next g₁ m
    (a :: as, g₂)

theorem draws_succ {α : Type} (next : Mulberry → α × Mulberry) (g : Mulberry) (m : Nat) :
    draws next g (m + 1) =
      ((next g).1 :: (draws next (next g).2 m).1, (draws next (next g).2 m).2) := rfl

theorem length_draws {α : Type} (next : Mulberry → α × Mulberry) (g : Mulberry) (m : Nat) :
    (draws next g m).1.length = m := by
  induction m generalizing g with
  | zero => rfl
  | succ m ih => rw [draws_succ, List.length_cons, ih]

theorem length_flatMap_bytesLE (us : List UInt32) : (us.flatMap bytesLE).length = 4 * us.length := by
  induction us with
  | nil => rfl
  | cons u us ih =>
    rw [List.flatMap_cons, List.length_append, ih, length_bytesLE, List.length_cons]
    omega

/-- A 64-bit output is two 32-bit outputs, the first the low half, and leaves the generator
two draws on. -/
theorem nextU64_toNat (g : Mulberry) :
    g.nextU64.1.toNat = g.nextU32.1.toNat + 2 ^ 32 * g.nextU32.2.nextU32.1.toNat ∧
      g.nextU64.2 = g.nextU32.2.nextU32.2 := by
  refine ⟨?_, rfl⟩
  have hword : g.nextU64.1 =
      (g.nextU32.2.nextU32.1.toUInt64 <<< 32) ||| g.nextU32.1.toUInt64 := rfl
  rw [hword]
  generalize g.nextU32.1 = lo
  generalize g.nextU32.2.nextU32.1 = hi
  have hlo := lo.toNat_lt
  have hhi := hi.toNat_lt
  have hshift : hi.toNat <<< 32 % 2 ^ 64 = hi.toNat <<< 32 := by
    rw [Nat.shiftLeft_eq]
    exact Nat.mod_eq_of_lt (by omega)
  simp only [UInt64.toNat_or, UInt64.toNat_shiftLeft, UInt32.toNat_toUInt64, UInt64.reduceToNat,
    Nat.reduceMod, hshift]
  rw [← Nat.shiftLeft_add_eq_or_of_lt hlo, Nat.shiftLeft_eq]
  ring

/-- The bytes of a 64-bit output are the bytes of its two 32-bit outputs in order. -/
theorem bytesLE64_nextU64 (g : Mulberry) :
    bytesLE64 g.nextU64.1 = bytesLE g.nextU32.1 ++ bytesLE g.nextU32.2.nextU32.1 := by
  refine eq_of_leValue_eq ?_ ?_
  · rw [length_bytesLE64, List.length_append, length_bytesLE, length_bytesLE]
  · rw [leValue_bytesLE64, leValue_append, leValue_bytesLE, leValue_bytesLE, length_bytesLE,
      (nextU64_toNat g).1, show (256 : Nat) ^ 4 = 2 ^ 32 by rfl]

/-! ## Filling a buffer -/

/-- Filling from a count of words gives the first `n` bytes of that many outputs. -/
theorem fillBytes_go (g : Mulberry) (n k : Nat) :
    fillBytes.go g n k =
      (((draws nextU32 g k).1.flatMap bytesLE).take n, (draws nextU32 g k).2) := by
  induction k generalizing g n with
  | zero => simp [fillBytes.go, draws]
  | succ k ih =>
    -- the first word gives at most four bytes, the rest come from the following words
    rcases hg : g.nextU32 with ⟨u, g₁⟩
    have hdraws : draws nextU32 g (k + 1) =
        (u :: (draws nextU32 g₁ k).1, (draws nextU32 g₁ k).2) := by
      rw [draws_succ, hg]
    simp only [fillBytes.go, hg, ih, hdraws, List.flatMap_cons, List.take_append,
      length_bytesLE]

/-- `n` bytes are the first `n` bytes of `⌈n / 4⌉` successive 32-bit outputs, least
significant first, and the generator is left where those draws leave it. -/
theorem fillBytes_eq (g : Mulberry) (n : Nat) :
    g.fillBytes n =
      (((draws nextU32 g (n ⌈/⌉ 4)).1.flatMap bytesLE).take n, (draws nextU32 g (n ⌈/⌉ 4)).2) := by
  rw [fillBytes, fillBytes_go, Nat.ceilDiv_eq_add_pred_div, show n + 4 - 1 = n + 3 by omega]

/-- Two 32-bit draws for each 64-bit draw: the same bytes, and the same generator left. -/
theorem draws_two_mul (g : Mulberry) (k : Nat) :
    ((draws nextU32 g (2 * k)).1.flatMap bytesLE, (draws nextU32 g (2 * k)).2) =
      ((draws nextU64 g k).1.flatMap bytesLE64, (draws nextU64 g k).2) := by
  induction k generalizing g with
  | zero => rfl
  | succ k ih =>
    have hk : 2 * (k + 1) = 2 * k + 1 + 1 := by omega
    obtain ⟨hbytes, hstate⟩ := Prod.mk.inj (ih g.nextU32.2.nextU32.2)
    rw [hk, draws_succ, draws_succ, draws_succ, List.flatMap_cons, List.flatMap_cons,
      List.flatMap_cons, bytesLE64_nextU64, (nextU64_toNat g).2, ← hbytes, ← hstate,
      List.append_assoc]

/-- Filling `8 · k` bytes gives the bytes of `k` successive 64-bit outputs. -/
theorem fillBytes_eight_mul (g : Mulberry) (k : Nat) :
    g.fillBytes (8 * k) = ((draws nextU64 g k).1.flatMap bytesLE64, (draws nextU64 g k).2) := by
  have hwords : (8 * k) ⌈/⌉ 4 = 2 * k := by
    rw [Nat.ceilDiv_eq_add_pred_div]
    omega
  have hlen : ((draws nextU32 g (2 * k)).1.flatMap bytesLE).length ≤ 8 * k := by
    rw [length_flatMap_bytesLE, length_draws]
    omega
  rw [fillBytes_eq, hwords, List.take_of_length_le hlen, draws_two_mul]

/-- The bytes of a Mulberry32 generator, as its word outputs lay them out: filling `n` bytes
writes the first `n` bytes of `⌈n / 4⌉` successive 32-bit outputs, each least significant
byte first, and leaves the generator where those draws leave it; a 64-bit output is the
first 32-bit output plus `2 ^ 32` times the second, and leaves the generator two draws on;
so filling `8 · k` bytes writes the bytes of `k` successive 64-bit outputs. The byte lists of
the words are their little-endian encodings: read back least significant first, they give
the words. -/
theorem bytes_follow_successive_words (g : Mulberry) :
    (∀ u, leValue (bytesLE u) = u.toNat) ∧ (∀ v, leValue (bytesLE64 v) = v.toNat) ∧
    (∀ n, g.fillBytes n =
      (((draws nextU32 g (n ⌈/⌉ 4)).1.flatMap bytesLE).take n, (draws nextU32 g (n ⌈/⌉ 4)).2)) ∧
    (g.nextU64.1.toNat = g.nextU32.1.toNat + 2 ^ 32 * g.nextU32.2.nextU32.1.toNat ∧
      g.nextU64.2 = g.nextU32.2.nextU32.2) ∧
    (∀ k, g.fillBytes (8 * k) = ((draws nextU64 g k).1.flatMap bytesLE64, (draws nextU64 g k).2)) :=
  ⟨leValue_bytesLE, leValue_bytesLE64, fillBytes_eq g, nextU64_toNat g, fillBytes_eight_mul g⟩

end Mulberry

end Random

end ScriptLib
