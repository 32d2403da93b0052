import Mathlib.Algebra.Order.Floor.Div
import RefreshChain.TokenGenerator

/-!
# Tokens carry the bytes that were drawn

Base64 for URLs, said by bits: those of the bytes are taken in groups of six, and each group is the
position of a character in the alphabet.

* `Base64Url.Writes`, `Base64Url.writes_iff`: the text that writes given bytes is the one that they
  are encoded as. `Base64Url.length_encode`, `Base64Url.mem_encode`: how long it is and what it
  consists of.
* `Base64Url.decode?_eq_some_iff`: what is written is read, and nothing else.
* `secure_tokens_carry_bytes`: a generated token has all of this, so that no two draws of bytes give
  the same token.
-/

namespace RefreshChain

namespace Base64Url

/-! ## The alphabet -/

theorem symbol_isAlphanum : ∀ n < 64, (symbol n).isAlphanum ∨ symbol n = '-' ∨ symbol n = '_' := by
  decide

theorem idxOf_symbol : ∀ n < 64, alphabet.idxOf (symbol n) = n := by decide

theorem symbol_mem_alphabet {n : Nat} (h : n < 64) : symbol n ∈ alphabet := by
  refine List.idxOf_lt_length_iff.mp ?_
  rw [idxOf_symbol n h]
  exact h

theorem value?_symbol : ∀ n < 64, value? (symbol n) = some n := by decide

/-- A character that has a value is the one of that value. -/
theorem symbol_of_value? {c : Char} {n : Nat} (h : value? c = some n) : n < 64 ∧ symbol n = c := by
  have hc : Char.ofNat c.toNat = c := Char.ofNat_toNat c
  have hle (d e : Char) : d ≤ e ↔ d.toNat ≤ e.toNat := UInt32.le_iff_toNat_le
  simp only [value?, hle, Char.reduceToNat] at h
  split at h
  · cases h
    refine ⟨by omega, ?_⟩
    rw [symbol, if_pos (by omega), Nat.add_sub_of_le (by omega), hc]
  split at h
  · cases h
    refine ⟨by omega, ?_⟩
    rw [symbol, if_neg (by omega), if_pos (by omega), Nat.add_sub_of_le (by omega), hc]
  split at h
  · cases h
    refine ⟨by omega, ?_⟩
    rw [symbol, if_neg (by omega), if_neg (by omega), if_pos (by omega), Nat.add_sub_cancel, hc]
  split at h
  · cases h
    subst c
    decide
  split at h
  · cases h
    subst c
    decide
  · cases h

/-! ## Bits -/

/-- The `width` lowest bits of a number, the highest of them first. -/
def bits (width n : Nat) : List Bool := (List.range width).reverse.map n.testBit

@[simp] theorem length_bits (width n : Nat) : (bits width n).length = width := by simp [bits]

theorem bits_zero (width : Nat) : bits width 0 = List.replicate width false := by
  refine List.eq_replicate_iff.mpr ⟨length_bits width 0, fun b hb => ?_⟩
  obtain ⟨i, -, rfl⟩ := List.mem_map.mp hb
  exact Nat.zero_testBit i

theorem bits_congr {width m n : Nat} (h : m % 2 ^ width = n % 2 ^ width) :
    bits width m = bits width n := by
  refine List.map_congr_left fun i hi => ?_
  have hi : i < width := by simpa using hi
  have hm := Nat.testBit_mod_two_pow m width i
  have hn := Nat.testBit_mod_two_pow n width i
  rw [h] at hm
  simpa [hi] using hm.symm.trans hn

/-- The bits of a number, cut in two. -/
theorem bits_add (u v n : Nat) : bits (u + v) n = bits u (n / 2 ^ v) ++ bits v n := by
  have hupper : ∀ i, n.testBit (v + i) = (n / 2 ^ v).testBit i := fun i => by
    rw [Nat.testBit_div_two_pow, Nat.add_comm]
  rw [bits, Nat.add_comm u v, List.range_add, List.reverse_append, List.map_append,
    ← List.map_reverse, List.map_map]
  congr 1
  exact List.map_congr_left fun i _ => hupper i

theorem bits_inj {width m n : Nat} (hm : m < 2 ^ width) (hn : n < 2 ^ width)
    (h : bits width m = bits width n) : m = n := by
  refine Nat.eq_of_testBit_eq fun i => ?_
  rcases Nat.lt_or_ge i width with hi | hi
  · exact List.map_inj_left.mp h i (by simpa using hi)
  · rw [Nat.testBit_lt_two_pow (hm.trans_le (Nat.pow_le_pow_right (by omega) hi)),
      Nat.testBit_lt_two_pow (hn.trans_le (Nat.pow_le_pow_right (by omega) hi))]

/-- The lowest bits of one number in front of all bits of another. -/
theorem bits_carry {u v n : Nat} (m : Nat) (hn : n < 2 ^ v) :
    bits (u + v) (m % 2 ^ u * 2 ^ v + n) = bits u m ++ bits v n := by
  rw [bits_add]
  congr 1
  · rw [Nat.add_comm, Nat.add_mul_div_right _ _ (Nat.two_pow_pos v), Nat.div_eq_of_lt hn,
      Nat.zero_add]
    exact bits_congr (Nat.mod_mod _ _)
  · exact bits_congr (Nat.mul_add_mod_self_right ..)

/-! ## What is written -/

theorem length_encode (bytes : List UInt8) :
    (encode bytes).length = (4 * bytes.length + 2) / 3 := by
  induction bytes using encode.induct with
  | case1 a b c rest ih =>
    simp only [encode, List.length_cons, ih]
    omega
  | case2 a b => simp [encode]
  | case3 a => simp [encode]
  | case4 => rfl

theorem mem_encode {bytes : List UInt8} {c : Char} (h : c ∈ encode bytes) :
    ∃ n < 64, symbol n = c := by
  induction bytes using encode.induct with
  | case1 a b d rest ih =>
    have := a.toNat_lt
    have := b.toNat_lt
    have := d.toNat_lt
    simp only [encode, List.mem_cons] at h
    rcases h with rfl | rfl | rfl | rfl | h
    · exact ⟨_, by omega, rfl⟩
    · exact ⟨_, by omega, rfl⟩
    · exact ⟨_, by omega, rfl⟩
    · exact ⟨_, by omega, rfl⟩
    · exact ih h
  | case2 a b =>
    have := a.toNat_lt
    have := b.toNat_lt
    simp only [encode, List.mem_cons, List.not_mem_nil, or_false] at h
    rcases h with rfl | rfl | rfl <;> exact ⟨_, by omega, rfl⟩
  | case3 a =>
    have := a.toNat_lt
    simp only [encode, List.mem_cons, List.not_mem_nil, or_false] at h
    rcases h with rfl | rfl <;> exact ⟨_, by omega, rfl⟩
  | case4 => cases h

/-! ### A text in base64 -/

/-- The bits for which a text stands: six for each character, its position in the alphabet. -/
def textBits (text : List Char) : List Bool := text.flatMap fun c => bits 6 (alphabet.idxOf c)

def byteBits (bytes : List UInt8) : List Bool := bytes.flatMap fun b => bits 8 b.toNat

/-- The text writes the bytes in base64 for URLs, without padding: its bits are theirs, and as many
zeros as the last character has room for. -/
structure Writes (text : List Char) (bytes : List UInt8) : Prop where
  mem_alphabet : ∀ c ∈ text, c ∈ alphabet
  bits : ∃ k < 6, textBits text = byteBits bytes ++ List.replicate k false

@[simp] theorem textBits_nil : textBits [] = [] := rfl

@[simp] theorem byteBits_nil : byteBits [] = [] := rfl

theorem textBits_symbol {n : Nat} (h : n < 64) (text : List Char) :
    textBits (symbol n :: text) = bits 6 n ++ textBits text := by
  rw [textBits, List.flatMap_cons, idxOf_symbol n h, ← textBits]

@[simp] theorem byteBits_cons (b : UInt8) (bytes : List UInt8) :
    byteBits (b :: bytes) = bits 8 b.toNat ++ byteBits bytes := rfl

/-! ### Three bytes in four characters

A character takes up the bits that the byte before it left over, then the first ones of its own. -/

section

variable {n : Nat} (a b c : Nat)

theorem bits_first : bits 8 a = bits 6 (a / 4) ++ bits 2 a := bits_add 6 2 a

theorem bits_second : bits 8 b = bits 4 (b / 16) ++ bits 4 b := bits_add 4 4 b

theorem bits_third : bits 8 c = bits 2 (c / 64) ++ bits 6 c := bits_add 2 6 c

theorem bits_left_by_first (hn : n < 16) : bits 6 (a % 4 * 16 + n) = bits 2 a ++ bits 4 n :=
  bits_carry (u := 2) (v := 4) a hn

theorem bits_left_by_second (hn : n < 4) : bits 6 (b % 16 * 4 + n) = bits 4 b ++ bits 2 n :=
  bits_carry (u := 4) (v := 2) b hn

theorem bits_last_of_first : bits 6 (a % 4 * 16) = bits 2 a ++ List.replicate 4 false := by
  rw [← bits_zero, ← bits_left_by_first a (by decide), Nat.add_zero]

theorem bits_last_of_second : bits 6 (b % 16 * 4) = bits 4 b ++ List.replicate 2 false := by
  rw [← bits_zero, ← bits_left_by_second b (by decide), Nat.add_zero]

theorem bits_left_by_third : bits 6 (c % 64) = bits 6 c := bits_congr (Nat.mod_mod c 64)

end

theorem textBits_encode (bytes : List UInt8) : textBits (encode bytes) =
    byteBits bytes ++ List.replicate (4 * bytes.length % 6) false := by
  induction bytes using encode.induct with
  | case1 a b c rest ih =>
    have ha := a.toNat_lt
    have hb := b.toNat_lt
    have hc := c.toNat_lt
    have hlength : 4 * (a :: b :: c :: rest).length % 6 = 4 * rest.length % 6 := by
      simp only [List.length_cons]
      omega
    rw [encode, textBits_symbol (by omega), textBits_symbol (by omega), textBits_symbol (by omega),
      textBits_symbol (by omega), ih, bits_left_by_first _ (by omega),
      bits_left_by_second _ (by omega), bits_left_by_third]
    simp only [byteBits_cons, bits_first a.toNat, bits_second b.toNat, bits_third c.toNat,
      List.append_assoc, hlength]
  | case2 a b =>
    have ha := a.toNat_lt
    have hb := b.toNat_lt
    rw [encode, textBits_symbol (by omega), textBits_symbol (by omega), textBits_symbol (by omega),
      bits_left_by_first _ (by omega), bits_last_of_second]
    simp [bits_first a.toNat, bits_second b.toNat]
  | case3 a =>
    have ha := a.toNat_lt
    rw [encode, textBits_symbol (by omega), textBits_symbol (by omega), bits_last_of_first]
    simp [bits_first a.toNat]
  | case4 => rfl

theorem encode_writes (bytes : List UInt8) : Writes (encode bytes) bytes where
  mem_alphabet c hc := by
    obtain ⟨n, hn, rfl⟩ := mem_encode hc
    exact symbol_mem_alphabet hn
  bits := ⟨_, Nat.mod_lt _ (by decide), textBits_encode bytes⟩

theorem length_textBits (text : List Char) : (textBits text).length = 6 * text.length := by
  simp [textBits, List.length_flatMap, Nat.mul_comm]

/-- Six bits for each character leave no choice between two texts. -/
theorem textBits_inj {text text' : List Char} (h : ∀ c ∈ text, c ∈ alphabet)
    (h' : ∀ c ∈ text', c ∈ alphabet) (hbits : textBits text = textBits text') : text = text' := by
  have hlength := congrArg List.length hbits
  rw [length_textBits, length_textBits] at hlength
  induction text generalizing text' with
  | nil => exact (List.eq_nil_of_length_eq_zero (by simpa using hlength.symm)).symm
  | cons c text ih =>
    cases text' with
    | nil => simp at hlength
    | cons d text' =>
      obtain ⟨hc, htext⟩ := List.forall_mem_cons.mp h
      obtain ⟨hd, htext'⟩ := List.forall_mem_cons.mp h'
      obtain ⟨hhead, htail⟩ := List.append_inj
        (hbits : bits 6 (alphabet.idxOf c) ++ textBits text = bits 6 (alphabet.idxOf d) ++ _)
        (by simp only [length_bits])
      have hcd : c = d := (List.idxOf_inj hc).mp
        (bits_inj (List.idxOf_lt_length_of_mem hc) (List.idxOf_lt_length_of_mem hd) hhead)
      have hrest : 6 * text.length = 6 * text'.length := by simpa using hlength
      rw [hcd, ih htext htext' htail hrest]

/-- There is one way to write the bytes. -/
theorem Writes.unique {text text' : List Char} {bytes : List UInt8} (h : Writes text bytes)
    (h' : Writes text' bytes) : text = text' := by
  obtain ⟨k, hk, hbits⟩ := h.bits
  obtain ⟨k', hk', hbits'⟩ := h'.bits
  have hlength := congrArg List.length hbits
  have hlength' := congrArg List.length hbits'
  rw [length_textBits, List.length_append, List.length_replicate] at hlength hlength'
  -- Six divides the bits of either text, so that the zeros are as many.
  obtain rfl : k = k' := by omega
  exact textBits_inj h.mem_alphabet h'.mem_alphabet (hbits.trans hbits'.symm)

theorem writes_iff {text : List Char} {bytes : List UInt8} :
    Writes text bytes ↔ text = encode bytes :=
  ⟨fun h => h.unique (encode_writes bytes), fun h => h ▸ encode_writes bytes⟩

/-! ## Reading -/

theorem ofNat_eq_of_toNat {n : Nat} {b : UInt8} (h : n = b.toNat) : UInt8.ofNat n = b := by
  rw [h, UInt8.ofNat_toNat]

theorem decode?_encode (bytes : List UInt8) : decode? (encode bytes) = some bytes := by
  induction bytes using encode.induct with
  | case1 a b c rest ih =>
    have ha := a.toNat_lt
    have hb := b.toNat_lt
    have hc := c.toNat_lt
    rw [encode, decode?, value?_symbol _ (by omega), value?_symbol _ (by omega),
      value?_symbol _ (by omega), value?_symbol _ (by omega), ih]
    simp only [Option.bind_eq_bind, Option.bind_some, Option.pure_def]
    rw [ofNat_eq_of_toNat (b := a) (by omega), ofNat_eq_of_toNat (b := b) (by omega),
      ofNat_eq_of_toNat (b := c) (by omega)]
  | case2 a b =>
    have ha := a.toNat_lt
    have hb := b.toNat_lt
    rw [encode, decode?, value?_symbol _ (by omega), value?_symbol _ (by omega),
      value?_symbol _ (by omega)]
    simp only [Option.bind_eq_bind, Option.bind_some, Option.pure_def]
    rw [if_pos (by omega), ofNat_eq_of_toNat (b := a) (by omega),
      ofNat_eq_of_toNat (b := b) (by omega)]
  | case3 a =>
    have ha := a.toNat_lt
    rw [encode, decode?, value?_symbol _ (by omega), value?_symbol _ (by omega)]
    simp only [Option.bind_eq_bind, Option.bind_some, Option.pure_def]
    rw [if_pos (by omega), ofNat_eq_of_toNat (b := a) (by omega)]
  | case4 => rfl

theorem toNat_ofNat_of_lt {n : Nat} (h : n < 256) : (UInt8.ofNat n).toNat = n :=
  UInt8.toNat_ofNat_of_lt' h

/-- Only what is written is read. -/
theorem eq_encode_of_decode? {text : List Char} {bytes : List UInt8}
    (h : decode? text = some bytes) : text = encode bytes := by
  induction text using decode?.induct generalizing bytes with
  | case1 p q r s rest ih =>
    simp only [decode?, Option.bind_eq_bind, Option.bind_eq_some_iff, Option.pure_def,
      Option.some.injEq] at h
    obtain ⟨m₁, h₁, m₂, h₂, m₃, h₃, m₄, h₄, tail, htail, rfl⟩ := h
    obtain ⟨hm₁, rfl⟩ := symbol_of_value? h₁
    obtain ⟨hm₂, rfl⟩ := symbol_of_value? h₂
    obtain ⟨hm₃, rfl⟩ := symbol_of_value? h₃
    obtain ⟨hm₄, rfl⟩ := symbol_of_value? h₄
    have e₁ : (m₁ * 4 + m₂ / 16) / 4 = m₁ := by omega
    have e₂ : (m₁ * 4 + m₂ / 16) % 4 * 16 + (m₂ % 16 * 16 + m₃ / 4) / 16 = m₂ := by omega
    have e₃ : (m₂ % 16 * 16 + m₃ / 4) % 16 * 4 + (m₃ % 4 * 64 + m₄) / 64 = m₃ := by omega
    have e₄ : (m₃ % 4 * 64 + m₄) % 64 = m₄ := by omega
    rw [encode, ← ih htail, toNat_ofNat_of_lt (by omega), toNat_ofNat_of_lt (by omega),
      toNat_ofNat_of_lt (by omega), e₁, e₂, e₃, e₄]
  | case2 p q r =>
    simp only [decode?, Option.bind_eq_bind, Option.bind_eq_some_iff, Option.pure_def,
      Option.ite_none_right_eq_some, Option.some.injEq] at h
    obtain ⟨m₁, h₁, m₂, h₂, m₃, h₃, hleft, rfl⟩ := h
    obtain ⟨hm₁, rfl⟩ := symbol_of_value? h₁
    obtain ⟨hm₂, rfl⟩ := symbol_of_value? h₂
    obtain ⟨hm₃, rfl⟩ := symbol_of_value? h₃
    have e₁ : (m₁ * 4 + m₂ / 16) / 4 = m₁ := by omega
    have e₂ : (m₁ * 4 + m₂ / 16) % 4 * 16 + (m₂ % 16 * 16 + m₃ / 4) / 16 = m₂ := by omega
    -- The two bits that belong to no byte are zero, or this would not be `m₃`.
    have e₃ : (m₂ % 16 * 16 + m₃ / 4) % 16 * 4 = m₃ := by omega
    rw [encode, toNat_ofNat_of_lt (by omega), toNat_ofNat_of_lt (by omega), e₁, e₂, e₃]
  | case3 p q =>
    simp only [decode?, Option.bind_eq_bind, Option.bind_eq_some_iff, Option.pure_def,
      Option.ite_none_right_eq_some, Option.some.injEq] at h
    obtain ⟨m₁, h₁, m₂, h₂, hleft, rfl⟩ := h
    obtain ⟨hm₁, rfl⟩ := symbol_of_value? h₁
    obtain ⟨hm₂, rfl⟩ := symbol_of_value? h₂
    have e₁ : (m₁ * 4 + m₂ / 16) / 4 = m₁ := by omega
    have e₂ : (m₁ * 4 + m₂ / 16) % 4 * 16 = m₂ := by omega
    rw [encode, toNat_ofNat_of_lt (by omega), e₁, e₂]
  | case4 p => cases h
  | case5 => cases h; rfl

theorem decode?_eq_some_iff {text : List Char} {bytes : List UInt8} :
    decode? text = some bytes ↔ text = encode bytes :=
  ⟨eq_encode_of_decode?, fun h => h ▸ decode?_encode bytes⟩

theorem encode_injective : Function.Injective encode := fun bytes bytes' h => by
  have hdecode := congrArg decode? h
  rwa [decode?_encode, decode?_encode, Option.some.injEq] at hdecode

end Base64Url

theorem TokenGenerator.toList_secure {σ : Type} (random : RandomBytes σ) (n : Nat) (source : σ) :
    (TokenGenerator.secure random n source).1.toList = Base64Url.encode (random n source).1 :=
  String.toList_ofList

/-- What is drawn for a token is what the token carries. Its length is four thirds of the bytes,
rounded up, its characters need no escape in a URL, it is the one text that writes its bytes in
base64, and the one that reads back as them. So tokens are equal just if their bytes are. -/
theorem secure_tokens_carry_bytes {σ : Type} (random : RandomBytes σ) (n : Nat) (source : σ)
    (hlength : (random n source).1.length = n) :
    let bytes := (random n source).1
    let token := (TokenGenerator.secure random n source).1
    token.length = 4 * n ⌈/⌉ 3 ∧
    (∀ c ∈ token.toList, c.isAlphanum ∨ c = '-' ∨ c = '_') ∧
    (∀ text, Base64Url.Writes text bytes ↔ text = token.toList) ∧
    (∀ text, Base64Url.decode? text = some bytes ↔ text = token.toList) ∧
    ∀ {τ : Type} (random' : RandomBytes τ) (m : Nat) (source' : τ),
      (TokenGenerator.secure random' m source').1 = token ↔ (random' m source').1 = bytes := by
  intro bytes token
  have htoken : token.toList = Base64Url.encode bytes := TokenGenerator.toList_secure random n source
  rw [htoken]
  refine ⟨?_, fun c hc => ?_, fun text => Base64Url.writes_iff, fun text =>
    Base64Url.decode?_eq_some_iff, fun random' m source' => ?_⟩
  · rw [← String.length_toList, htoken, Base64Url.length_encode, hlength, Nat.ceilDiv_eq_add_pred_div]
    rfl
  · obtain ⟨k, hk, rfl⟩ := Base64Url.mem_encode hc
    exact Base64Url.symbol_isAlphanum k hk
  · rw [← String.toList_inj, htoken, TokenGenerator.toList_secure]
    exact Base64Url.encode_injective.eq_iff

namespace Sample

/-- Random bytes that were drawn before. -/
def drawn : RandomBytes (List UInt8) := fun n bytes => (bytes.take n, bytes.drop n)

end Sample

theorem drawn_tokens_carry_bytes :
    let bytes : List UInt8 := [0xFB, 0xF0, 0x00, 0xFF, 0x01]
    let token := (TokenGenerator.secure Sample.drawn 4 bytes).1
    token = "-_AA_w" ∧ token.length = 4 * 4 ⌈/⌉ 3 ∧
      Base64Url.decode? token.toList = some [0xFB, 0xF0, 0x00, 0xFF] ∧
      (TokenGenerator.secure Sample.drawn 5 bytes).1 ≠ token := by
  intro bytes token
  obtain ⟨hlength, -, -, hdecode, hequal⟩ := secure_tokens_carry_bytes Sample.drawn 4 bytes rfl
  have hdrawn : (Sample.drawn 4 bytes).1 = [0xFB, 0xF0, 0x00, 0xFF] := rfl
  have hread := (hdecode token.toList).mpr rfl
  rw [hdrawn] at hread
  refine ⟨by decide, hlength, hread, fun h => ?_⟩
  have hbytes := (hequal Sample.drawn 5 bytes).mp h
  exact absurd hbytes (by decide)

end RefreshChain
