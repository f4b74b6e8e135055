import IotCore.Library.JsonReader

/-! # A writer of JSON texts

The writer escapes everything outside of ASCII, and spells a character beyond U+FFFF as a pair
of surrogates. What it writes stands for the value it was given, so it can be read back. -/

namespace IotCore.JsonText

/-! ## Strings -/

def hexDigit (n : Nat) : Char := if n < 10 then Char.ofNat (48 + n) else Char.ofNat (87 + n)

/-- `\u` and four digits -/
def escapeUnit (n : Nat) : List Char :=
  [backslash, 'u', hexDigit (n / 4096 % 16), hexDigit (n / 256 % 16), hexDigit (n / 16 % 16),
    hexDigit (n % 16)]

def escapeChar (c : Char) : List Char :=
  if c = quote then [backslash, quote]
  else if c = backslash then [backslash, backslash]
  else if c = '\n' then [backslash, 'n']
  else if c = '\r' then [backslash, 'r']
  else if c = '\t' then [backslash, 't']
  else if c = '\x0c' then [backslash, 'f']
  else if c = '\x08' then [backslash, 'b']
  else if 0x20 ≤ c.toNat ∧ c.toNat ≤ 0x7e then [c]
  else if c.toNat < 0x10000 then escapeUnit c.toNat
  else
    let n := c.toNat - 0x10000
    escapeUnit (0xD800 + n / 0x400) ++ escapeUnit (0xDC00 + n % 0x400)

def escape : CodePoint → List Char
  | .char c => escapeChar c
  | .surrogate n => escapeUnit (0xD800 + n.val)

def writeString (s : Str) : List Char := quote :: (s.flatMap escape ++ [quote])

/-! ## Values -/

mutual

def write : Value → List Char
  | .null => ['n', 'u', 'l', 'l']
  | .bool true => ['t', 'r', 'u', 'e']
  | .bool false => ['f', 'a', 'l', 's', 'e']
  | .number text => text
  | .string s => writeString s
  | .array values => '[' :: writeElements values
  | .object members => '\x7b' :: writeMembers members

/-- The values and the closing bracket. -/
def writeElements : List Value → List Char
  | [] => [']']
  | v :: [] => write v ++ [']']
  | v :: w :: vs => write v ++ ',' :: ' ' :: writeElements (w :: vs)

def writeMembers : List (Str × Value) → List Char
  | [] => ['\x7d']
  | (key, v) :: [] => writeString key ++ ':' :: ' ' :: (write v ++ ['\x7d'])
  | (key, v) :: m :: ms =>
      writeString key ++ ':' :: ' ' :: (write v ++ ',' :: ' ' :: writeMembers (m :: ms))

end

mutual

/-- Numbers are spelled as the grammar wants it or are constants, and no string has the two halves
of a character side by side. -/
def Writable : Value → Prop
  | .number text => isNumber text = true ∨ isConstant text = true
  | .string s => joinPairs s = s
  | .array values => WritableList values
  | .object members => WritableMembers members
  | _ => True

def WritableList : List Value → Prop
  | [] => True
  | v :: vs => Writable v ∧ WritableList vs

def WritableMembers : List (Str × Value) → Prop
  | [] => True
  | (key, v) :: ms => joinPairs key = key ∧ Writable v ∧ WritableMembers ms

end

example : write (.object [(Str.ofChars ['a'], .array [.bool true, .null])]) =
    "\x7b\"a\": [true, null]\x7d".toList := by decide

/-! ## Strings are read back -/

theorem hexValue_hexDigit {n : Nat} (h : n < 16) : hexValue (hexDigit n) = some n := by
  have hall : ∀ m : Fin 16, hexValue (hexDigit m.val) = some m.val := by decide
  exact hall ⟨n, h⟩

theorem scan_escapeUnit {n : Nat} (h : n < 0x10000) (input : List Char) :
    scan (escapeUnit n ++ input) =
      (scan input).map fun (s, rest) => (codeUnit n :: s, rest) := by
  have hn : ((n / 4096 % 16 * 16 + n / 256 % 16) * 16 + n / 16 % 16) * 16 + n % 16 = n := by
    omega
  have hhex : hexEscape (hexDigit (n / 4096 % 16)) (hexDigit (n / 256 % 16))
      (hexDigit (n / 16 % 16)) (hexDigit (n % 16)) = some (codeUnit n) := by
    simp [hexEscape, hexValue_hexDigit, Nat.mod_lt, hn]
  rw [escapeUnit, scan.eq_def]
  simp [show backslash ≠ quote by decide, hhex]

theorem scan_short {c : Char} {e : CodePoint} (hc : c ≠ 'u') (h : shortEscape c = some e)
    (input : List Char) :
    scan (backslash :: c :: input) = (scan input).map fun (s, rest) => (e :: s, rest) := by
  rw [scan.eq_def]
  simp only [show backslash ≠ quote by decide, if_false, if_true]
  split
  · rename_i heq
    cases heq
    exact absurd rfl hc
  · rename_i heq
    cases heq
    simp [h]
  · rename_i heq
    cases heq

/-- The code points that the escapes of a code point name. -/
def units : CodePoint → Str
  | .char c =>
      if c.toNat < 0x10000 then [.char c]
      else
        let n := c.toNat - 0x10000
        [codeUnit (0xD800 + n / 0x400), codeUnit (0xDC00 + n % 0x400)]
  | .surrogate n => [.surrogate n]

theorem char_lt (c : Char) : c.toNat < 0x110000 := by
  rcases c.valid with h | h
  · exact Nat.lt_trans h (by decide)
  · exact h.2

theorem codeUnit_toNat (c : Char) : codeUnit c.toNat = .char c := by
  have hsurrogate : ¬(c.toNat - 0xD800 < 0x800 ∧ 0xD800 ≤ c.toNat) := by
    rcases c.valid with h | h
    · have hlt : c.toNat < 0xD800 := h
      omega
    · have hlt : 0xDFFF < c.toNat := h.1
      omega
  rw [codeUnit, dif_neg hsurrogate, Char.ofNat_toNat]

theorem codeUnit_surrogate (n : Fin 0x800) : codeUnit (0xD800 + n.val) = .surrogate n := by
  have h : 0xD800 + n.val - 0xD800 < 0x800 ∧ 0xD800 ≤ 0xD800 + n.val := by omega
  rw [codeUnit, dif_pos h]
  simp

theorem scan_escape (c : CodePoint) (input : List Char) :
    scan (escape c ++ input) = (scan input).map fun (s, rest) => (units c ++ s, rest) := by
  cases c with
  | surrogate n =>
      rw [escape, scan_escapeUnit (by omega), codeUnit_surrogate]
      rfl
  | char c =>
      rw [escape, escapeChar]
      split_ifs with hquote hback hn hr ht hf hb hplain hbmp
      · subst c
        exact scan_short (by decide) (by decide) input
      · subst c
        exact scan_short (by decide) (by decide) input
      · subst c
        exact scan_short (by decide) (by decide) input
      · subst c
        exact scan_short (by decide) (by decide) input
      · subst c
        exact scan_short (by decide) (by decide) input
      · subst c
        exact scan_short (by decide) (by decide) input
      · subst c
        exact scan_short (by decide) (by decide) input
      · have hu : units (.char c) = [.char c] := by
          have hlt : c.toNat < 0x10000 := by omega
          simp [units, hlt]
        rw [hu]
        exact scan_unescaped ⟨hquote, hback, hplain.1⟩ input
      · rw [scan_escapeUnit hbmp, codeUnit_toNat]
        simp [units, hbmp]
      · have hlt := char_lt c
        rw [List.append_assoc, scan_escapeUnit (by omega), scan_escapeUnit (by omega)]
        simp [units, hbmp, Function.comp_def]

theorem scan_escapes (s : Str) (rest : List Char) :
    scan (s.flatMap escape ++ quote :: rest) = some (s.flatMap units, rest) := by
  induction s with
  | nil => simp
  | cons c s ih =>
      rw [List.flatMap_cons, List.append_assoc, scan_escape, ih]
      rfl

/-- A character beyond U+FFFF is spelled as a pair, and pairs are joined. -/
theorem units_char {c : Char} (h : ¬c.toNat < 0x10000) :
    ∃ hi lo : Fin 0x800, hi.val < 0x400 ∧ 0x400 ≤ lo.val ∧
      units (.char c) = [.surrogate hi, .surrogate lo] ∧
      Char.ofNat (0x10000 + hi.val * 0x400 + (lo.val - 0x400)) = c := by
  have hlt := char_lt c
  let hi : Fin 0x800 := ⟨(c.toNat - 0x10000) / 0x400, by omega⟩
  let lo : Fin 0x800 := ⟨0x400 + (c.toNat - 0x10000) % 0x400, by omega⟩
  refine ⟨hi, lo, by simp only [hi]; omega, by simp only [lo]; omega, ?_, ?_⟩
  · have hlo : 0xDC00 + (c.toNat - 0x10000) % 0x400 = 0xD800 + lo.val := by
      simp only [lo]
      omega
    simp only [units, h, if_false, hlo, codeUnit_surrogate]
    rw [show (c.toNat - 0x10000) / 0x400 = hi.val from rfl, codeUnit_surrogate]
  · have heq : 0x10000 + hi.val * 0x400 + (lo.val - 0x400) = c.toNat := by
      simp only [hi, lo]
      omega
    rw [heq, Char.ofNat_toNat]

theorem joinPairs_pair {hi lo : Fin 0x800} (hhi : hi.val < 0x400) (hlo : 0x400 ≤ lo.val)
    (s : Str) :
    joinPairs (.surrogate hi :: .surrogate lo :: s) =
      .char (Char.ofNat (0x10000 + hi.val * 0x400 + (lo.val - 0x400))) :: joinPairs s := by
  rw [joinPairs, if_pos ⟨hhi, hlo⟩]

theorem joinPairs_units_char (c : Char) (s : Str) :
    joinPairs (units (.char c) ++ s) = .char c :: joinPairs s := by
  by_cases h : c.toNat < 0x10000
  · simp [units, h, joinPairs]
  · obtain ⟨hi, lo, hhi, hlo, hu, hc⟩ := units_char h
    rw [hu, List.cons_append, List.cons_append, List.nil_append, joinPairs_pair hhi hlo, hc]

/-- A surrogate before a whole character belongs to no pair. -/
theorem joinPairs_surrogate_units (h : Fin 0x800) (c : Char) (s : Str) :
    joinPairs (.surrogate h :: (units (.char c) ++ s)) =
      .surrogate h :: joinPairs (units (.char c) ++ s) := by
  by_cases hc : c.toNat < 0x10000
  · simp [units, hc, joinPairs]
  · obtain ⟨hi, lo, hhi, hlo, hu, _⟩ := units_char hc
    rw [hu, List.cons_append, joinPairs, if_neg (by omega)]

theorem joinPairs_units (s : Str) : joinPairs (s.flatMap units) = joinPairs s := by
  fun_induction joinPairs s with
  | case1 h l s hpair ih =>
      simp only [List.flatMap_cons, units, List.cons_append, List.nil_append]
      rw [joinPairs_pair hpair.1 hpair.2, ih]
  | case2 h l s hpair ih =>
      simp only [List.flatMap_cons, units, List.cons_append, List.nil_append] at ih ⊢
      rw [joinPairs, if_neg hpair, ih]
  | case3 c s hc ih =>
      rw [List.flatMap_cons]
      cases c with
      | char c => rw [joinPairs_units_char, ih]
      | surrogate h =>
          cases s with
          | nil => rfl
          | cons d s =>
              cases d with
              | surrogate l => exact (hc h l s rfl rfl).elim
              | char d =>
                  simp only [List.flatMap_cons] at ih ⊢
                  rw [← ih]
                  exact joinPairs_surrogate_units h d _
  | case4 => rfl

theorem token_writeString (s : Str) (rest : List Char) :
    token (writeString s ++ rest) = some (.scalar (.string (joinPairs s)), rest) := by
  have happend : writeString s ++ rest = quote :: (s.flatMap escape ++ quote :: rest) := by
    simp [writeString]
  rw [happend, token_quote, scan_escapes]
  simp [joinPairs_units]

/-! ## Numbers are read back -/

/-- A part of a number: some characters that all belong to numbers, and what is left. -/
def Prefixed (text rest : List Char) : Prop :=
  ∃ part, text = part ++ rest ∧ ∀ c ∈ part, isNumberChar c = true

theorem Prefixed.refl (text : List Char) : Prefixed text text := ⟨[], rfl, by simp⟩

theorem Prefixed.cons {c : Char} {text rest : List Char} (hc : isNumberChar c = true)
    (h : Prefixed text rest) : Prefixed (c :: text) rest := by
  obtain ⟨part, rfl, hpart⟩ := h
  exact ⟨c :: part, rfl, List.forall_mem_cons.mpr ⟨hc, hpart⟩⟩

theorem Prefixed.trans {text mid rest : List Char} (h : Prefixed text mid)
    (h' : Prefixed mid rest) : Prefixed text rest := by
  obtain ⟨part, rfl, hpart⟩ := h
  obtain ⟨part', rfl, hpart'⟩ := h'
  exact ⟨part ++ part', by simp, List.forall_mem_append.mpr ⟨hpart, hpart'⟩⟩

theorem isNumberChar_of_isDigit {c : Char} (h : c.isDigit = true) : isNumberChar c = true := by
  simp [isNumberChar, h]

theorem prefixed_dropWhile (text : List Char) : Prefixed text (text.dropWhile Char.isDigit) := by
  refine ⟨text.takeWhile Char.isDigit, List.takeWhile_append_dropWhile.symm, fun c hc => ?_⟩
  exact isNumberChar_of_isDigit (List.all_eq_true.mp List.all_takeWhile c hc)

theorem digits_prefixed {text rest : List Char} (h : digits text = some rest) :
    ∃ c after, text = c :: after ∧ c.isDigit = true ∧ Prefixed text rest := by
  cases text with
  | nil => cases h
  | cons c after =>
      rw [digits] at h
      split_ifs at h with hc
      cases h
      exact ⟨c, after, rfl, hc, (prefixed_dropWhile after).cons (isNumberChar_of_isDigit hc)⟩

theorem integer_prefixed {text rest : List Char} (h : integer text = some rest) :
    ∃ c after, text = c :: after ∧ (c = '-' ∨ c.isDigit = true) ∧ Prefixed text rest := by
  rw [integer.eq_def] at h
  split at h
  · cases h
    exact ⟨_, _, rfl, .inl rfl, ((Prefixed.refl _).cons (by decide)).cons (by decide)⟩
  · cases h
    exact ⟨_, _, rfl, .inr (by decide), (Prefixed.refl _).cons (by decide)⟩
  · obtain ⟨c, after, rfl, _, hpre⟩ := digits_prefixed h
    exact ⟨_, _, rfl, .inl rfl, hpre.cons (by decide)⟩
  · obtain ⟨c, after, rfl, hc, hpre⟩ := digits_prefixed h
    exact ⟨c, after, rfl, .inr hc, hpre⟩

theorem fraction_prefixed {text rest : List Char} (h : fraction text = some rest) :
    Prefixed text rest := by
  rw [fraction.eq_def] at h
  split at h
  · obtain ⟨c, after, rfl, _, hpre⟩ := digits_prefixed h
    exact hpre.cons (by decide)
  · cases h
    exact .refl _

theorem exponent_prefixed {text rest : List Char} (h : exponent text = some rest) :
    Prefixed text rest := by
  rw [exponent.eq_def] at h
  split at h
  · cases h
    exact .refl _
  · rename_i c input
    split_ifs at h with he
    have hc : isNumberChar c = true := by rcases he with rfl | rfl <;> decide
    split at h
    · obtain ⟨_, _, rfl, _, hpre⟩ := digits_prefixed h
      exact (hpre.cons (by decide)).cons hc
    · obtain ⟨_, _, rfl, _, hpre⟩ := digits_prefixed h
      exact (hpre.cons (by decide)).cons hc
    · obtain ⟨_, _, rfl, _, hpre⟩ := digits_prefixed h
      exact hpre.cons hc

theorem isNumber_prefixed {text : List Char} (h : isNumber text = true) :
    ∃ c after, text = c :: after ∧ (c = '-' ∨ c.isDigit = true) ∧
      ∀ d ∈ text, isNumberChar d = true := by
  have hsome : ((integer text).bind fraction).bind exponent = some [] := by
    simpa [isNumber] using h
  obtain ⟨r, hr, hexp⟩ := Option.bind_eq_some_iff.mp hsome
  obtain ⟨r', hr', hfrac⟩ := Option.bind_eq_some_iff.mp hr
  obtain ⟨c, after, htext, hc, hint⟩ := integer_prefixed hr'
  obtain ⟨part, hpart, hall⟩ :=
    (hint.trans (fraction_prefixed hfrac)).trans (exponent_prefixed hexp)
  rw [List.append_nil] at hpart
  exact ⟨c, after, htext, hc, hpart ▸ hall⟩

/-- What may follow a number. -/
def Ends (rest : List Char) : Prop := ∀ c ∈ rest.head?, isNumberChar c = false

theorem Ends.takeWhile {text rest : List Char} (htext : ∀ c ∈ text, isNumberChar c = true)
    (hrest : Ends rest) : (text ++ rest).takeWhile isNumberChar = text ∧
      (text ++ rest).dropWhile isNumberChar = rest := by
  have hhead : rest.takeWhile isNumberChar = [] ∧ rest.dropWhile isNumberChar = rest := by
    cases rest with
    | nil => simp
    | cons c rest => simp [hrest c (by simp)]
  rw [List.takeWhile_append_of_pos htext, List.dropWhile_append_of_pos htext, hhead.1, hhead.2]
  simp

theorem token_number {text rest : List Char} (h : isNumber text = true) (hrest : Ends rest) :
    token (text ++ rest) = some (.scalar (.number text), rest) := by
  obtain ⟨c, after, rfl, hc, hall⟩ := isNumber_prefixed h
  have hsplit := hrest.takeWhile hall
  rw [List.cons_append] at hsplit ⊢
  have hspace : isSpace c = false ∧ c ≠ quote ∧ structural c = none := by
    rcases hc with rfl | hd
    · decide
    · have hrange : 48 ≤ c.toNat ∧ c.toNat ≤ 57 := by
        simpa [Char.isDigit, UInt32.le_iff_toNat_le] using hd
      have hne : ∀ d : Char, d.toNat < 48 ∨ 57 < d.toNat → c ≠ d := by
        intro d hd' he
        subst he
        omega
      refine ⟨?_, hne _ (by decide), ?_⟩
      · simp [isSpace, hne ' ' (by decide), hne '\t' (by decide), hne '\n' (by decide),
          hne '\r' (by decide)]
      · simp [structural, hne '\x7b' (by decide), hne '\x7d' (by decide), hne '[' (by decide),
          hne ']' (by decide), hne ':' (by decide), hne ',' (by decide)]
  have hskip : skip (c :: (after ++ rest)) = c :: (after ++ rest) := by simp [skip, hspace.1]
  rw [token, hskip]
  simp only [hspace.2.1, if_false, hspace.2.2, hc, if_true, hsplit.1, hsplit.2, h]

theorem token_constant {text : List Char} (h : isConstant text = true) (rest : List Char) :
    token (text ++ rest) = some (.scalar (.number text), rest) := by
  simp only [isConstant, Bool.or_eq_true, decide_eq_true_eq] at h
  obtain (rfl | rfl) | rfl := h
  · rfl
  · rfl
  · rfl

/-! ## Values are read back -/

theorem ends_of_not {c : Char} (h : isNumberChar c = false) (rest : List Char) :
    Ends (c :: rest) := by simpa [Ends] using h

theorem token_keyword {input : List Char} {t : Token} {rest : List Char}
    (h : keyword input = some (t, rest)) : token input = some (t, rest) := by
  rw [keyword.eq_def] at h
  split at h <;> cases h <;> rfl

theorem Parses.space {i r : List Char} {x : Item} (h : Parses i x r) : Parses (' ' :: i) x r := by
  have hspace : ∀ i, token (' ' :: i) = token i := fun i => token_space rfl i
  induction h with
  | scalar h => exact .scalar ((hspace _).trans h)
  | emptyArray h hc => exact .emptyArray ((hspace _).trans h) hc
  | array h hvs _ => exact .array ((hspace _).trans h) hvs
  | emptyObject h hc => exact .emptyObject ((hspace _).trans h) hc
  | object h hms _ => exact .object ((hspace _).trans h) hms
  | lastElement _ hc ih => exact .lastElement ih hc
  | element _ hc hvs ih _ => exact .element ih hc hvs
  | lastMember hkey hcolon hv hc _ => exact .lastMember ((hspace _).trans hkey) hcolon hv hc
  | member hkey hcolon hv hc hms _ _ =>
      exact .member ((hspace _).trans hkey) hcolon hv hc hms

mutual

/-- Whatever follows, up to a number that is cut short. -/
theorem parses_write : ∀ (v : Value), Writable v → ∀ rest, Ends rest →
    Parses (write v ++ rest) (.value v) rest
  | .null, _, _, _ => .scalar (token_keyword rfl)
  | .bool true, _, _, _ => .scalar (token_keyword rfl)
  | .bool false, _, _, _ => .scalar (token_keyword rfl)
  | .number _, .inl h, _, hrest => .scalar (token_number h hrest)
  | .number _, .inr h, rest, _ => .scalar (token_constant h rest)
  | .string s, h, rest, _ => by
      have htoken := token_writeString s rest
      rw [show joinPairs s = s from h] at htoken
      exact .scalar htoken
  | .array [], _, rest, _ => .emptyArray (token_structural rfl _) (token_structural rfl _)
  | .array (v :: vs), h, rest, _ =>
      .array (token_structural rfl _) (parses_writeElements (v :: vs) h (by simp) rest)
  | .object [], _, rest, _ => .emptyObject (token_openObject _) (token_closeObject _)
  | .object (m :: ms), h, rest, _ =>
      .object (token_openObject _) (parses_writeMembers (m :: ms) h (by simp) rest)

theorem parses_writeElements : ∀ (vs : List Value), WritableList vs → vs ≠ [] → ∀ rest,
    Parses (writeElements vs ++ rest) (.elements vs) rest
  | [], _, hne, _ => absurd rfl hne
  | v :: [], h, _, rest => by
      have hv := parses_write v h.1 (']' :: rest) (ends_of_not rfl rest)
      rw [writeElements, List.append_assoc]
      exact .lastElement hv (token_structural rfl _)
  | v :: w :: vs, h, _, rest => by
      have hv := parses_write v h.1 (',' :: ' ' :: (writeElements (w :: vs) ++ rest))
        (ends_of_not rfl _)
      have hvs := parses_writeElements (w :: vs) h.2 (by simp) rest
      rw [writeElements, List.append_assoc]
      exact .element hv (token_comma _) hvs.space

theorem parses_writeMembers : ∀ (ms : List (Str × Value)), WritableMembers ms → ms ≠ [] →
    ∀ rest, Parses (writeMembers ms ++ rest) (.members ms) rest
  | [], _, hne, _ => absurd rfl hne
  | (key, v) :: [], h, _, rest => by
      have hkey := token_writeString key (':' :: ' ' :: (write v ++ '\x7d' :: rest))
      rw [h.1] at hkey
      have hv := parses_write v h.2.1 ('\x7d' :: rest) (ends_of_not rfl rest)
      simp only [writeMembers, List.append_assoc, List.cons_append, List.nil_append]
      exact .lastMember hkey (token_colon _) hv.space (token_closeObject _)
  | (key, v) :: m :: ms, h, _, rest => by
      have hkey := token_writeString key
        (':' :: ' ' :: (write v ++ ',' :: ' ' :: (writeMembers (m :: ms) ++ rest)))
      rw [h.1] at hkey
      have hv := parses_write v h.2.1 (',' :: ' ' :: (writeMembers (m :: ms) ++ rest))
        (ends_of_not rfl _)
      have hms := parses_writeMembers (m :: ms) h.2.2 (by simp) rest
      simp only [writeMembers, List.append_assoc, List.cons_append]
      exact .member hkey (token_colon _) hv.space (token_comma _) hms.space

end

theorem reads_write {v : Value} (h : Writable v) : Reads (write v) v := by
  have hparse := parses_write v h [] (by simp [Ends])
  rw [List.append_nil] at hparse
  exact ⟨[], hparse, rfl⟩

theorem decodes_write {v : Value} (h : Writable v) (hstandard : Standard v) :
    Decodes (write v) v :=
  ⟨reads_write h, hstandard⟩

theorem read_write {v : Value} (h : Writable v) : read (write v) = some v :=
  read_eq_some_iff.mpr (reads_write h)

end IotCore.JsonText
