import Mathlib.Data.List.DropRight

/-! # Base64

Three bytes are written as four symbols, and a shorter last group is padded. The decoder
ignores padding and unused bits. -/

namespace SdkInternal.Shared.Base64

open List UInt8

def alphabet : List Char :=
  "ABCDEFGHIJKLMNOPQRSTUVWXYZabcdefghijklmnopqrstuvwxyz0123456789+/".toList

def symbol (value : ℕ) : Char := alphabet.getD value 'A'

def value (symbol : Char) : Option ℕ := alphabet.idxOf? symbol

def symbols : List UInt8 → List Char
  | [] => []
  | [a] =>
    let bits := a.toNat * 16
    [symbol (bits / 64), symbol (bits % 64)]
  | [a, b] =>
    let bits := (a.toNat * 256 + b.toNat) * 4
    [symbol (bits / 4096), symbol (bits / 64 % 64), symbol (bits % 64)]
  | a :: b :: c :: rest =>
    let bits := (a.toNat * 256 + b.toNat) * 256 + c.toNat
    symbol (bits / 262144) :: symbol (bits / 4096 % 64) :: symbol (bits / 64 % 64) ::
      symbol (bits % 64) :: symbols rest

def padding (bytes : List UInt8) : List Char := List.replicate ((3 - bytes.length % 3) % 3) '='

def encode (bytes : List UInt8) : List Char := symbols bytes ++ padding bytes

/-- The bytes that the values of the symbols stand for. One symbol alone holds no byte. -/
def bytesOf : List ℕ → Option (List UInt8)
  | [] => some []
  | [_] => none
  | [a, b] => some [ofNat ((a * 64 + b) / 16)]
  | [a, b, c] =>
    let bits := ((a * 64 + b) * 64 + c) / 4
    some [ofNat (bits / 256), ofNat bits]
  | a :: b :: c :: d :: rest =>
    let bits := ((a * 64 + b) * 64 + c) * 64 + d
    (bytesOf rest).map fun bytes =>
      ofNat (bits / 65536) :: ofNat (bits / 256) :: ofNat bits :: bytes

def decode (text : List Char) : Option (List UInt8) := do
  let values ← (text.rdropWhile (· == '=')).mapM value
  bytesOf values

/-! ## Symbols -/

theorem value_symbol {n : ℕ} (h : n < 64) : value (symbol n) = some n := by
  have hall : ∀ n : Fin 64, value (symbol n) = some n.val := by decide +kernel
  exact hall ⟨n, h⟩

theorem symbol_mem (n : ℕ) : symbol n ∈ alphabet := by
  unfold symbol
  rw [getD_eq_getElem?_getD]
  cases h : alphabet[n]? with
  | none => decide +kernel
  | some c => exact mem_of_getElem? h

theorem mem_alphabet_of_mem_symbols {bytes : List UInt8} {c : Char} (h : c ∈ symbols bytes) :
    c ∈ alphabet := by
  induction bytes using symbols.induct with
  | case1 => cases h
  | case2 a =>
    simp only [symbols, mem_cons, not_mem_nil, or_false] at h
    rcases h with rfl | rfl
    · exact symbol_mem _
    · exact symbol_mem _
  | case3 a b =>
    simp only [symbols, mem_cons, not_mem_nil, or_false] at h
    rcases h with rfl | rfl | rfl
    · exact symbol_mem _
    · exact symbol_mem _
    · exact symbol_mem _
  | case4 a b c rest ih =>
    simp only [symbols, mem_cons] at h
    rcases h with rfl | rfl | rfl | rfl | h
    · exact symbol_mem _
    · exact symbol_mem _
    · exact symbol_mem _
    · exact symbol_mem _
    · exact ih h

theorem mem_encode {bytes : List UInt8} {c : Char} (h : c ∈ encode bytes) :
    c ∈ alphabet ∨ c = '=' := by
  rcases mem_append.mp h with h | h
  · exact .inl (mem_alphabet_of_mem_symbols h)
  · exact .inr (eq_of_mem_replicate h)

/-! ## Round trip -/

variable (bytes : List UInt8)

theorem rdropWhile_encode : (encode bytes).rdropWhile (· == '=') = symbols bytes := by
  have hpadding : ∀ count : ℕ,
      (symbols bytes ++ replicate count '=').rdropWhile (· == '=') =
        (symbols bytes).rdropWhile (· == '=') := by
    intro count
    induction count with
    | zero => rw [replicate_zero, append_nil]
    | succ count ih =>
      rw [replicate_succ', ← append_assoc, rdropWhile_concat_pos _ _ _ rfl, ih]
  rw [encode, padding, hpadding, rdropWhile_eq_self_iff]
  intro hne hlast
  have hmem := mem_alphabet_of_mem_symbols (getLast_mem hne)
  rw [beq_iff_eq.mp hlast] at hmem
  revert hmem
  decide +kernel

theorem ofNat_eq_of_mod {n : ℕ} {byte : UInt8} (h : n % 256 = byte.toNat) :
    UInt8.ofNat n = byte := by
  apply UInt8.toNat_inj.mp
  rwa [UInt8.toNat_ofNat']

theorem bytesOf_values : ((symbols bytes).mapM value).bind bytesOf = some bytes := by
  induction bytes using symbols.induct with
  | case1 => rfl
  | case2 a =>
    have ha := a.toNat_lt
    generalize hbits : a.toNat * 16 = bits
    have hfirst : value (symbol (bits / 64)) = some (bits / 64) := value_symbol (by omega)
    have hsecond : value (symbol (bits % 64)) = some (bits % 64) := value_symbol (by omega)
    have hbyte : ofNat ((bits / 64 * 64 + bits % 64) / 16) = a :=
      ofNat_eq_of_mod (by omega)
    simp [symbols, hbits, hfirst, hsecond, bytesOf, hbyte]
  | case3 a b =>
    have ha := a.toNat_lt
    have hb := b.toNat_lt
    generalize hbits : (a.toNat * 256 + b.toNat) * 4 = bits
    have hfirst : value (symbol (bits / 4096)) = some (bits / 4096) := value_symbol (by omega)
    have hsecond : value (symbol (bits / 64 % 64)) = some (bits / 64 % 64) :=
      value_symbol (by omega)
    have hthird : value (symbol (bits % 64)) = some (bits % 64) := value_symbol (by omega)
    have hjoined : (bits / 4096 * 64 + bits / 64 % 64) * 64 + bits % 64 = bits := by omega
    have ha' : ofNat (bits / 4 / 256) = a := ofNat_eq_of_mod (by omega)
    have hb' : ofNat (bits / 4) = b := ofNat_eq_of_mod (by omega)
    simp [symbols, hbits, hfirst, hsecond, hthird, bytesOf, hjoined, ha', hb']
  | case4 a b c rest ih =>
    have ha := a.toNat_lt
    have hb := b.toNat_lt
    have hc := c.toNat_lt
    generalize hbits : (a.toNat * 256 + b.toNat) * 256 + c.toNat = bits
    have hfirst : value (symbol (bits / 262144)) = some (bits / 262144) :=
      value_symbol (by omega)
    have hsecond : value (symbol (bits / 4096 % 64)) = some (bits / 4096 % 64) :=
      value_symbol (by omega)
    have hthird : value (symbol (bits / 64 % 64)) = some (bits / 64 % 64) :=
      value_symbol (by omega)
    have hfourth : value (symbol (bits % 64)) = some (bits % 64) := value_symbol (by omega)
    have hjoined : ((bits / 262144 * 64 + bits / 4096 % 64) * 64 + bits / 64 % 64) * 64 +
        bits % 64 = bits := by omega
    have ha' : ofNat (bits / 65536) = a := ofNat_eq_of_mod (by omega)
    have hb' : ofNat (bits / 256) = b := ofNat_eq_of_mod (by omega)
    have hc' : ofNat bits = c := ofNat_eq_of_mod (by omega)
    obtain ⟨values, hvalues, hrest⟩ := Option.bind_eq_some_iff.mp ih
    simp [symbols, hbits, hfirst, hsecond, hthird, hfourth, hvalues, bytesOf, hrest, hjoined,
      ha', hb', hc']

theorem decode_encode : decode (encode bytes) = some bytes := by
  rw [decode, rdropWhile_encode]
  exact bytesOf_values bytes

/-! ## The alphabet for urls

Two symbols are replaced, and nothing is padded. -/

def urlAlphabet : List Char :=
  "ABCDEFGHIJKLMNOPQRSTUVWXYZabcdefghijklmnopqrstuvwxyz0123456789-_".toList

def urlSymbol (symbol : Char) : Char :=
  if symbol = '+' then '-' else if symbol = '/' then '_' else symbol

def urlValue (symbol : Char) : Option ℕ := urlAlphabet.idxOf? symbol

def encodeUrl (bytes : List UInt8) : List Char := (symbols bytes).map urlSymbol

def decodeUrl (text : List Char) : Option (List UInt8) := do
  let values ← (text.rdropWhile (· == '=')).mapM urlValue
  bytesOf values

theorem urlSymbol_spec {c : Char} (h : c ∈ alphabet) :
    urlValue (urlSymbol c) = value c ∧ urlSymbol c ≠ '=' := by
  have hall : alphabet.all (fun c => urlValue (urlSymbol c) = value c ∧ urlSymbol c ≠ '=') := by
    decide +kernel
  simpa using all_eq_true.mp hall c h

theorem mapM_urlValue {text : List Char} (h : ∀ c ∈ text, c ∈ alphabet) :
    (text.map urlSymbol).mapM urlValue = text.mapM value := by
  induction text with
  | nil => rw [map_nil, mapM_nil, mapM_nil]
  | cons c text ih =>
    obtain ⟨hc, htext⟩ := forall_mem_cons.mp h
    rw [map_cons, mapM_cons, mapM_cons, (urlSymbol_spec hc).1, ih htext]

theorem decodeUrl_encodeUrl : decodeUrl (encodeUrl bytes) = some bytes := by
  have hunpadded : (encodeUrl bytes).rdropWhile (· == '=') = encodeUrl bytes := by
    rw [rdropWhile_eq_self_iff]
    intro hne hlast
    obtain ⟨c, hc, heq⟩ := mem_map.mp (getLast_mem hne)
    rw [← heq, beq_iff_eq] at hlast
    exact (urlSymbol_spec (mem_alphabet_of_mem_symbols hc)).2 hlast
  have hvalues : (encodeUrl bytes).mapM urlValue = (symbols bytes).mapM value :=
    mapM_urlValue fun _ => mem_alphabet_of_mem_symbols
  rw [decodeUrl, hunpadded, hvalues]
  exact bytesOf_values bytes

end SdkInternal.Shared.Base64
