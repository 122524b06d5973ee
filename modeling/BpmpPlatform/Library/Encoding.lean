import Mathlib.Algebra.Group.Nat.Defs
import Mathlib.Data.List.Basic

/-! # Self-delimiting byte strings

Such encodings can be read off the front of a longer byte string, so that a sequence of them is the encoding of one
sequence of values.
-/
namespace BpmpPlatform.Encoding
open List

/-- The last `width` bytes of a number, the most significant first. -/
def beBytes : Nat → Nat → List UInt8
  | 0, _ => []
  | width + 1, n => beBytes width (n / 256) ++ [UInt8.ofNat n]

def be64 (n : Nat) : List UInt8 := beBytes 8 n

def lengthPrefixed (bytes : List UInt8) : List UInt8 := be64 bytes.length ++ bytes

def utf8 (s : String) : List UInt8 := s.toByteArray.data.toList

def text (s : String) : List UInt8 := lengthPrefixed (utf8 s)

@[simp] theorem length_beBytes (width n : Nat) : (beBytes width n).length = width := by
  induction width generalizing n with
  | zero => rfl
  | succ width ih => simp [beBytes, ih]

variable {n m : Nat}

theorem beBytes_inj {width : Nat} (hn : n < 256 ^ width) (hm : m < 256 ^ width)
    (h : beBytes width n = beBytes width m) : n = m := by
  induction width generalizing n m with
  | zero => omega
  | succ width ih =>
    rw [Nat.pow_succ] at hn hm
    obtain ⟨hh,hlow⟩ := append_inj h (by simp)
    have hdiv := ih (Nat.div_lt_of_lt_mul (by omega)) (Nat.div_lt_of_lt_mul (by omega)) hh
    have hmod : n % 256 = m % 256 := by
      have hb := congrArg UInt8.toNat (singleton_inj.mp hlow)
      simpa using hb
    omega

variable {rest rest' : List UInt8} {s' s : String}

theorem be64_append_inj (hn : n < 2 ^ 64) (hm : m < 2 ^ 64) (h : be64 n ++ rest = be64 m ++ rest') :
    n = m ∧ rest = rest' := by
  obtain ⟨hnum,hr⟩ := append_inj h (by simp [be64])
  exact ⟨beBytes_inj hn hm hnum,hr⟩

theorem lengthPrefixed_append_inj {bytes bytes' : List UInt8} (hs : bytes.length < 2 ^ 64)
    (hs' : bytes'.length < 2 ^ 64)
    (h : lengthPrefixed bytes ++ rest = lengthPrefixed bytes' ++ rest') : bytes = bytes' ∧ rest = rest' := by
  simp only [lengthPrefixed, append_assoc] at h
  obtain ⟨hl,hap⟩ := be64_append_inj hs hs' h
  exact append_inj hap hl

/-- The text is short enough for its length to be a number of eight bytes. -/
def Sized (s : String) : Prop := (utf8 s).length < 2 ^ 64

instance (s : String) : Decidable (Sized s) := inferInstanceAs (Decidable (_ < _))

theorem utf8_inj (h : utf8 s = utf8 s') : s = s' := by
  unfold utf8 at h
  exact String.toByteArray_inj.mp (ByteArray.ext (Array.toList_inj.mp h))

theorem text_append_inj (hs : Sized s) (hs' : Sized s') (h : text s ++ rest = text s' ++ rest') :
    s = s' ∧ rest = rest' := by
  obtain ⟨hb,hr⟩ := lengthPrefixed_append_inj hs hs' h
  exact ⟨utf8_inj hb,hr⟩

theorem flatMap_append_inj {α : Type} {encode : α → List UInt8} {l l' : List α}
    (hinj : ∀ a ∈ l, ∀ b ∈ l', ∀ rest rest', encode a ++ rest = encode b ++ rest' → a = b ∧ rest = rest')
    (hl : l.length = l'.length)
    (h : l.flatMap encode ++ rest = l'.flatMap encode ++ rest') : l = l' ∧ rest = rest' := by
  induction l generalizing l' with
  | nil =>
    cases l' with
    | nil => exact ⟨rfl,h⟩
    | cons => simp at hl
  | cons a l ih =>
    cases l' with
    | nil => simp at hl
    | cons b =>
      simp only [flatMap_cons, append_assoc] at h
      obtain ⟨hh,ht⟩ := hinj a mem_cons_self b mem_cons_self _ _ h
      have hr := ih (fun c hc d hd => hinj c (mem_cons_of_mem _ hc) d (mem_cons_of_mem _ hd))
        (by simpa using hl) ht
      exact ⟨by rw [hh, hr.1],hr.2⟩

end BpmpPlatform.Encoding
