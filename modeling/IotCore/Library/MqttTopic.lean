import Mathlib.Data.List.Forall2

/-! # MQTT topics

A topic is a sequence of levels between slashes. A topic filter may have wildcards: `+` stands
for one level, and `#`, which is last, for any number of levels. A template is a topic with
names to be filled in. -/

namespace IotCore.Mqtt

/-! ## Filters -/

def levels (topic : List Char) : List (List Char) := topic.splitOn '/'

def matchLevels : List (List Char) → List (List Char) → Bool
  | [], [] => true
  | filter :: filters, [] => filter == ['#'] && filters.isEmpty
  | [], _ :: _ => false
  | filter :: filters, level :: rest =>
      (filter == ['#'] && filters.isEmpty) ||
        ((filter == ['+'] || filter == level) && matchLevels filters rest)

/-- A filter that begins with a wildcard does not match a topic that begins with `$`. -/
def matchTopic (filter topic : List Char) : Bool :=
  if topic.head? = some '$' ∧ (filter.head? = some '+' ∨ filter.head? = some '#') then false
  else matchLevels (levels filter) (levels topic)

/-! ## Templates -/

inductive Symbol (ν : Type) where
  | char (c : Char)
  | name (n : ν)
  deriving DecidableEq, Repr

variable {ν : Type}

def Symbol.fill (names : ν → List Char) : Symbol ν → List Char
  | .char c => [c]
  | .name n => names n

def fill (names : ν → List Char) (template : List (Symbol ν)) : List Char :=
  template.flatMap (Symbol.fill names)

/-- A level of a template. -/
inductive Level (ν : Type) where
  | text (chars : List Char)
  | name (n : ν)
  deriving DecidableEq, Repr

def Level.fill (names : ν → List Char) : Level ν → List Char
  | .text chars => chars
  | .name n => names n

def charsOf : List (Symbol ν) → Option (List Char)
  | [] => some []
  | .char c :: symbols => (charsOf symbols).map (c :: ·)
  | .name _ :: _ => none

/-- A name is a whole level, or `none`. -/
def levelOf : List (Symbol ν) → Option (Level ν)
  | [.name n] => some (.name n)
  | symbols => (charsOf symbols).map .text

def levelsOf [DecidableEq ν] (template : List (Symbol ν)) : Option (List (Level ν)) :=
  (template.splitOn (Symbol.char '/')).mapM levelOf

/-- The level is a name or text without wildcards. -/
def Level.plain : Level ν → Bool
  | .text chars => !chars.contains '+' && !chars.contains '#'
  | .name _ => true

/-- Some text, or the number of levels, tells the templates apart. -/
def apart : List (Level ν) → List (Level ν) → Bool
  | [], [] => false
  | .text s :: ls, .text t :: ms => s != t || apart ls ms
  | _ :: ls, _ :: ms => apart ls ms
  | _, _ => true

theorem apart_comm (ls ms : List (Level ν)) : apart ls ms = apart ms ls := by
  induction ls generalizing ms with
  | nil =>
      cases ms with
      | nil => rfl
      | cons m ms => cases m <;> rfl
  | cons l ls ih =>
      cases ms with
      | nil => cases l <;> rfl
      | cons m ms => cases l <;> cases m <;> simp [apart, ih ms, bne_comm]

/-! ## The levels of a filled template -/

theorem splitOn_append {α : Type} [DecidableEq α] {sep : α} {xs : List α} (h : sep ∉ xs)
    (ys : List α) : (xs ++ ys).splitOn sep = (ys.splitOn sep).modifyHead (xs ++ ·) := by
  obtain ⟨first, after, hsplit⟩ := List.exists_cons_of_ne_nil (List.splitOn_ne_nil sep ys)
  induction xs with
  | nil => simp [hsplit]
  | cons x xs ih =>
      rw [List.mem_cons, not_or] at h
      rw [List.cons_append, List.splitOn_cons_eq_if_modifyHead, ih h.2, hsplit]
      simp [Ne.symm h.1]

theorem splitOn_fill [DecidableEq ν] {names : ν → List Char} {template : List (Symbol ν)}
    (hnames : ∀ n, Symbol.name n ∈ template → '/' ∉ names n) :
    (fill names template).splitOn '/' = (template.splitOn (.char '/')).map (fill names) := by
  induction template with
  | nil => rfl
  | cons symbol template ih =>
      obtain ⟨first, after, hsplit⟩ :=
        List.exists_cons_of_ne_nil (List.splitOn_ne_nil (Symbol.char '/') template)
      have hfill : fill names (symbol :: template) = symbol.fill names ++ fill names template :=
        List.flatMap_cons
      have ih := ih fun n hn => hnames n (List.mem_cons_of_mem symbol hn)
      rw [hsplit] at ih
      rw [hfill, List.splitOn_cons_eq_if_modifyHead, hsplit]
      by_cases hslash : symbol = .char '/'
      · subst symbol
        have hcons : Symbol.fill names (.char '/') ++ fill names template =
            '/' :: fill names template := rfl
        rw [hcons, List.splitOn_cons_eq_if_modifyHead, ih]
        simp [fill]
      · have hnot : '/' ∉ symbol.fill names := by
          cases symbol with
          | char c => simpa [Symbol.fill, eq_comm] using hslash
          | name n => exact hnames n List.mem_cons_self
        rw [splitOn_append hnot, ih]
        simp [hslash, fill]

theorem fill_charsOf {names : ν → List Char} {symbols : List (Symbol ν)} {chars : List Char}
    (h : charsOf symbols = some chars) : fill names symbols = chars := by
  induction symbols generalizing chars with
  | nil =>
      cases h
      rfl
  | cons symbol symbols ih =>
      cases symbol with
      | name n => cases h
      | char c =>
          obtain ⟨rest, hrest, rfl⟩ := Option.map_eq_some_iff.mp h
          rw [← ih hrest]
          rfl

theorem fill_levelOf {names : ν → List Char} {symbols : List (Symbol ν)} {level : Level ν}
    (h : levelOf symbols = some level) : fill names symbols = level.fill names := by
  rw [levelOf.eq_def] at h
  split at h
  · cases h
    simp [fill, Symbol.fill, Level.fill]
  · obtain ⟨chars, hchars, rfl⟩ := Option.map_eq_some_iff.mp h
    exact fill_charsOf hchars

theorem map_fill_levelOf {names : ν → List Char} {parts : List (List (Symbol ν))}
    {ls : List (Level ν)} (h : parts.mapM levelOf = some ls) :
    parts.map (fill names) = ls.map (Level.fill names) := by
  induction parts generalizing ls with
  | nil =>
      obtain rfl : [] = ls := by simpa using h
      rfl
  | cons part parts ih =>
      simp only [List.mapM_cons, Option.pure_def, Option.bind_eq_bind, Option.bind_eq_some_iff,
        Option.some.injEq] at h
      obtain ⟨level, hlevel, rest, hrest, rfl⟩ := h
      rw [List.map_cons, List.map_cons, fill_levelOf hlevel, ih hrest]

theorem levels_fill [DecidableEq ν] {names : ν → List Char} {template : List (Symbol ν)}
    {ls : List (Level ν)} (hnames : ∀ n, Symbol.name n ∈ template → '/' ∉ names n)
    (h : levelsOf template = some ls) :
    levels (fill names template) = ls.map (Level.fill names) := by
  rw [levels, splitOn_fill hnames, map_fill_levelOf h]

/-! ## The names of a template -/

theorem mem_splitOn {α : Type} [DecidableEq α] {sep x : α} (hx : x ≠ sep) (xs : List α) :
    (∃ part ∈ xs.splitOn sep, x ∈ part) ↔ x ∈ xs := by
  induction xs with
  | nil => simp
  | cons y ys ih =>
      obtain ⟨first, after, hsplit⟩ := List.exists_cons_of_ne_nil (List.splitOn_ne_nil sep ys)
      rw [hsplit] at ih
      rw [List.splitOn_cons_eq_if_modifyHead, hsplit, List.mem_cons, ← ih]
      by_cases hy : y = sep
      · subst y
        simp [hx]
      · simp [hy, or_assoc]

theorem name_notMem_of_charsOf {symbols : List (Symbol ν)} {chars : List Char}
    (h : charsOf symbols = some chars) (n : ν) : Symbol.name n ∉ symbols := by
  induction symbols generalizing chars with
  | nil => simp
  | cons symbol symbols ih =>
      cases symbol with
      | name n => cases h
      | char c =>
          obtain ⟨rest, hrest, rfl⟩ := Option.map_eq_some_iff.mp h
          simpa using ih hrest

theorem name_mem_levelOf {symbols : List (Symbol ν)} {level : Level ν}
    (h : levelOf symbols = some level) (n : ν) : level = .name n ↔ Symbol.name n ∈ symbols := by
  rw [levelOf.eq_def] at h
  split at h
  · cases h
    simp [eq_comm]
  · obtain ⟨chars, hchars, rfl⟩ := Option.map_eq_some_iff.mp h
    simpa using name_notMem_of_charsOf hchars n

theorem name_mem_levelsOf [DecidableEq ν] {template : List (Symbol ν)} {ls : List (Level ν)}
    (h : levelsOf template = some ls) (n : ν) : Level.name n ∈ ls ↔ Symbol.name n ∈ template := by
  have hparts : ∀ {parts : List (List (Symbol ν))} {ls : List (Level ν)},
      parts.mapM levelOf = some ls →
      (Level.name n ∈ ls ↔ ∃ part ∈ parts, Symbol.name n ∈ part) := by
    intro parts
    induction parts with
    | nil =>
        intro ls h
        obtain rfl : [] = ls := by simpa using h
        simp
    | cons part parts ih =>
        intro ls h
        simp only [List.mapM_cons, Option.pure_def, Option.bind_eq_bind, Option.bind_eq_some_iff,
          Option.some.injEq] at h
        obtain ⟨level, hlevel, rest, hrest, rfl⟩ := h
        rw [List.mem_cons, eq_comm, name_mem_levelOf hlevel, ih hrest]
        simp
  rw [hparts h, mem_splitOn (by simp)]

/-! ## Matching -/

theorem matchLevels_iff {fs ts : List (List Char)} (h : ['#'] ∉ fs) :
    matchLevels fs ts = true ↔ List.Forall₂ (fun f t => f = ['+'] ∨ f = t) fs ts := by
  induction fs generalizing ts with
  | nil => cases ts <;> simp [matchLevels]
  | cons f fs ih =>
      rw [List.mem_cons, not_or] at h
      have hf : (f == ['#']) = false := beq_eq_false_iff_ne.mpr (Ne.symm h.1)
      cases ts with
      | nil => simp [matchLevels, hf]
      | cons t ts => simp [matchLevels, hf, ih h.2]

section

variable {ls ms : List (Level ν)} {names names' : ν → List Char}

theorem hash_notMem (hplain : ls.all Level.plain = true)
    (hnames : ∀ n, Level.name n ∈ ls → names n ≠ ['#']) :
    ['#'] ∉ ls.map (Level.fill names) := by
  intro hmem
  obtain ⟨l, hl, hhash⟩ := List.mem_map.mp hmem
  have hp := List.all_eq_true.mp hplain l hl
  cases l with
  | name n => exact hnames n hl hhash
  | text chars =>
      obtain rfl : chars = ['#'] := hhash
      simp [Level.plain] at hp

theorem not_matchLevels_of_apart (hplain : ls.all Level.plain = true)
    (hnames : ∀ n, Level.name n ∈ ls → names n ≠ ['#']) (h : apart ls ms = true) :
    matchLevels (ls.map (Level.fill names)) (ms.map (Level.fill names')) = false := by
  rw [Bool.eq_false_iff, ne_eq, matchLevels_iff (hash_notMem hplain hnames)]
  intro hmatch
  induction ls generalizing ms with
  | nil =>
      cases ms with
      | nil => cases h
      | cons m ms => cases hmatch
  | cons l ls ih =>
      cases ms with
      | nil => cases hmatch
      | cons m ms =>
          rw [List.all_cons, Bool.and_eq_true] at hplain
          rw [List.map_cons, List.map_cons, List.forall₂_cons] at hmatch
          have ih : apart ls ms = true → False := fun h =>
            ih hplain.2 (fun n hn => hnames n (List.mem_cons_of_mem l hn)) h hmatch.2
          cases l with
          | name n => exact ih (by simpa [apart] using h)
          | text s =>
              cases m with
              | name n => exact ih (by simpa [apart] using h)
              | text t =>
                  have hst : s = t := by
                    refine hmatch.1.resolve_left fun hs => ?_
                    obtain rfl : s = ['+'] := hs
                    simp [Level.plain] at hplain
                  exact ih (by simpa [apart, hst] using h)

theorem matchLevels_same (hplain : ls.all Level.plain = true)
    (hnames : ∀ n, Level.name n ∈ ls → names n ≠ ['#']) :
    matchLevels (ls.map (Level.fill names)) (ls.map (Level.fill names')) = true ↔
      ∀ n, Level.name n ∈ ls → names n = ['+'] ∨ names n = names' n := by
  rw [matchLevels_iff (hash_notMem hplain hnames)]
  induction ls with
  | nil => simp
  | cons l ls ih =>
      rw [List.all_cons, Bool.and_eq_true] at hplain
      have ih := ih hplain.2 fun n hn => hnames n (List.mem_cons_of_mem l hn)
      rw [List.map_cons, List.map_cons, List.forall₂_cons, ih]
      cases l with
      | text s => simp [Level.fill]
      | name n => simp [Level.fill]

end

/-! ## Templates as filters -/

/-- A template that begins with `$`, with its levels: text without wildcards, and names. -/
structure Routable [DecidableEq ν] (template : List (Symbol ν)) (ls : List (Level ν)) : Prop where
  dollar : template.head? = some (.char '$')
  levels : levelsOf template = some ls
  plain : ls.all Level.plain = true

section

variable [DecidableEq ν] {template template' : List (Symbol ν)} {ls ms : List (Level ν)}
  {names names' : ν → List Char}

theorem Routable.matchTopic_fill (h : Routable template ls) (h' : Routable template' ms)
    (hnames : ∀ n, Symbol.name n ∈ template → '/' ∉ names n)
    (hnames' : ∀ n, Symbol.name n ∈ template' → '/' ∉ names' n) :
    matchTopic (fill names template) (fill names' template') =
      matchLevels (ls.map (Level.fill names)) (ms.map (Level.fill names')) := by
  have hdollar : (fill names template).head? = some '$' := by
    obtain ⟨rest, rfl⟩ := List.head?_eq_some_iff.mp h.dollar
    rfl
  simp [matchTopic, hdollar, levels_fill hnames h.levels, levels_fill hnames' h'.levels]

theorem Routable.matchTopic_of_apart (h : Routable template ls) (h' : Routable template' ms)
    (hnames : ∀ n, Symbol.name n ∈ template → '/' ∉ names n ∧ names n ≠ ['#'])
    (hnames' : ∀ n, Symbol.name n ∈ template' → '/' ∉ names' n) (hapart : apart ls ms = true) :
    matchTopic (fill names template) (fill names' template') = false := by
  rw [h.matchTopic_fill h' (fun n hn => (hnames n hn).1) hnames']
  exact not_matchLevels_of_apart h.plain
    (fun n hn => (hnames n ((name_mem_levelsOf h.levels n).mp hn)).2) hapart

theorem Routable.matchTopic_same (h : Routable template ls)
    (hnames : ∀ n, Symbol.name n ∈ template → '/' ∉ names n ∧ names n ≠ ['#'])
    (hnames' : ∀ n, Symbol.name n ∈ template → '/' ∉ names' n) :
    matchTopic (fill names template) (fill names' template) = true ↔
      ∀ n, Symbol.name n ∈ template → names n = ['+'] ∨ names n = names' n := by
  rw [h.matchTopic_fill h (fun n hn => (hnames n hn).1) hnames', matchLevels_same h.plain
    fun n hn => (hnames n ((name_mem_levelsOf h.levels n).mp hn)).2]
  simp [name_mem_levelsOf h.levels]

end

end IotCore.Mqtt
