import Jetpack.Go.Host
import Mathlib.Data.Nat.Digits
import Mathlib.Tactic.IntervalCases

/-!
# `fmt`'s `%v` for the values the VM persists

`saveStateData` writes a value with `fmt.Fprintf(f, "%v\n", value)` and `loadStateData`
reads it back with `fmt.Fscanf(f, "%v", value)`. The values are `int` (the CPU count and
the memory size) and `[]byte` (the machine identifier). Files are read as runes.

* `fmtInteger`, `fmtBytes`: the `%v` texts; a `[]byte` prints as a bracketed list of
  decimal numbers.
* `fscanfInt`: `scanInt` with verb `v` (sign, base prefix, digits and underscores), then
  `strconv.ParseInt(tok, 0, 64)`.
* `fscanfBytes`: `convertString` with verb `v`, the next word up to a space.
* `fscanfInt_fmtInteger`: an `int` reads back as written, for every value of Go's `int`.
* `fscanfBytes_fmtBytes`: a `[]byte` reads back as the first word of its text, `[` and
  the first byte in decimal; `fscanfBytes_fmtBytes_eq_iff`: so only `"[91"` reads back as
  written.
-/

namespace Jetpack.Fmt

/-- `isSpace` of `fmt/scan.go`: the runes of its table of Unicode spaces. -/
def isSpace (c : Char) : Bool :=
  let r := c.toNat
  (0x09 ≤ r && r ≤ 0x0d) || r == 0x20 || r == 0x85 || r == 0xa0 || r == 0x1680 ||
    (0x2000 ≤ r && r ≤ 0x200a) || r == 0x2028 || r == 0x2029 || r == 0x202f || r == 0x205f ||
    r == 0x3000

/-- `fmtInteger` with base 10: `%v` of an `int`. -/
def fmtInteger : Int → List Char
  | .ofNat n => Nat.toDigits 10 n
  | .negSucc n => '-' :: Nat.toDigits 10 (n + 1)

/-- `fmtBytes` with verb `v`: `[`, the bytes in decimal separated by spaces, `]`. -/
def fmtBytes (b : List UInt8) : List Char :=
  '[' :: List.intercalate [' '] (b.map fun x => Nat.toDigits 10 x.toNat) ++ [']']

/-- `hugeWid`: with no width in the verb, an operand reads at most `2^30` runes. -/
def hugeWid : Nat := 2 ^ 30

/-- `ss.SkipSpace` of `Fscanf`, where a newline is not a space: it drops spaces, and a
newline (alone or after `\r`) is the error `unexpected newline`. -/
def skipSpace : List Char → Except Error (List Char)
  | [] => .ok []
  | c :: rest =>
    if c = '\r' ∧ rest.head? = some '\n' then skipSpace rest
    else if c = '\n' then .error (.text "unexpected newline")
    else if isSpace c then skipSpace rest
    else .ok (c :: rest)

/-- `[]byte(s)` of the runes `s`. -/
def utf8 (s : List Char) : List UInt8 := s.flatMap String.utf8EncodeChar

/-- `fmt.Fscanf(f, "%v", &b)` for `b` a `[]byte`: `doScanf` skips space, then
`convertString` skips space, needs a rune, and takes the word up to the next space. -/
def fscanfBytes (input : List Char) : Except Error (List UInt8) := do
  let s ← skipSpace input
  let s ← skipSpace (s.take hugeWid)
  if s = [] then throw .eof
  let s ← skipSpace s
  return utf8 (s.takeWhile fun c => !isSpace c)

/-- `decimalDigits + "_"`. -/
def decimalDigits : List Char := "0123456789_".toList
/-- `octalDigits + "_"`. -/
def octalDigits : List Char := "01234567_".toList
/-- `binaryDigits + "_"`. -/
def binaryDigits : List Char := "01_".toList
/-- `hexadecimalDigits + "_"`. -/
def hexadecimalDigits : List Char := "0123456789aAbBcCdDeEfF_".toList

/-- `lower(c)` of `strconv`: `c | ('x' - 'X')`. -/
def lower (c : Char) : Nat := c.toNat ||| 0x20

/-- `scanBasePrefix` after the sign: a leading `0` starts `0b`, `0o`, `0x` or an octal
number; otherwise the number is decimal. It returns the token so far, the rest of the
input, the digits allowed, and whether a digit was found. -/
def scanBasePrefix (buf : List Char) : List Char → List Char × List Char × List Char × Bool
  | '0' :: c :: rest =>
    if c = 'b' ∨ c = 'B' then (buf ++ ['0', c], rest, binaryDigits, true)
    else if c = 'o' ∨ c = 'O' then (buf ++ ['0', c], rest, octalDigits, true)
    else if c = 'x' ∨ c = 'X' then (buf ++ ['0', c], rest, hexadecimalDigits, true)
    else (buf ++ ['0'], c :: rest, octalDigits, true)
  | ['0'] => (buf ++ ['0'], [], octalDigits, true)
  | s => (buf, s, decimalDigits, false)

/-- `scanNumber`: without a digit so far, the next rune must be one; then it takes every
rune that is one of `digits`. -/
def scanNumber (digits : List Char) (haveDigits : Bool) (buf s : List Char) : Except Error (List Char) :=
  let tok := buf ++ s.takeWhile (· ∈ digits)
  if haveDigits then .ok tok
  else
    match s with
    | [] => .error .eof
    | c :: _ => if c ∈ digits then .ok tok else .error (.text "expected integer")

/-- The two errors of `strconv`. -/
inductive NumErr
  | errSyntax
  | errRange
  deriving DecidableEq, Repr

/-- `ErrSyntax.Error()` and `ErrRange.Error()`. -/
def NumErr.text : NumErr → String
  | .errSyntax => "invalid syntax"
  | .errRange => "value out of range"

/-- `maxUint64`. -/
def maxUint64 : Nat := 2 ^ 64 - 1

/-- The digit loop of `strconv.ParseUint` with base argument 0 (so underscores pass), in
`base`, from the value `n` so far; `us` records an underscore. -/
def parseUintDigits (base : Nat) : List Char → Nat → Bool → Except NumErr (Nat × Bool)
  | [], n, us => .ok (n, us)
  | c :: cs, n, us =>
    if c = '_' then parseUintDigits base cs n true
    else
      let d? : Option Nat :=
        if '0' ≤ c ∧ c ≤ '9' then some (c.toNat - '0'.toNat)
        else if 97 ≤ lower c ∧ lower c ≤ 122 then some (lower c - 97 + 10)
        else none
      match d? with
      | none => .error .errSyntax
      | some d =>
        if base ≤ d then .error .errSyntax
        else if maxUint64 / base + 1 ≤ n then .error .errRange
        else if maxUint64 < n * base + d then .error .errRange
        else parseUintDigits base cs (n * base + d) us

/-- The digit loop of `underscoreOK`, after what `saw` last: `'^'` nothing, `'0'` a digit
or the base prefix, `'_'` an underscore, `'!'` anything else. -/
def underscoreLoop (hex : Bool) : List Char → Char → Bool
  | [], saw => saw ≠ '_'
  | c :: cs, saw =>
    if ('0' ≤ c ∧ c ≤ '9') ∨ (hex ∧ 97 ≤ lower c ∧ lower c ≤ 102) then underscoreLoop hex cs '0'
    else if c = '_' then saw = '0' && underscoreLoop hex cs '_'
    else if saw = '_' then false
    else underscoreLoop hex cs '!'

/-- `underscoreOK`: every underscore stands between digits (a base prefix counts as one). -/
def underscoreOK (s : List Char) : Bool :=
  let s := match s with
    | c :: r => if c = '-' ∨ c = '+' then r else c :: r
    | [] => []
  match s with
  | '0' :: c :: r =>
    if lower c = 98 ∨ lower c = 111 ∨ lower c = 120 then underscoreLoop (lower c = 120) r '0'
    else underscoreLoop false s '^'
  | _ => underscoreLoop false s '^'

/-- The base `strconv.ParseUint` reads from a prefix when called with base 0, and the digits
after it. -/
def basePrefix : List Char → Nat × List Char
  | '0' :: c :: d :: r =>
    if lower c = 98 then (2, d :: r)
    else if lower c = 111 then (8, d :: r)
    else if lower c = 120 then (16, d :: r)
    else (8, c :: d :: r)
  | '0' :: r => (8, r)
  | s => (10, s)

/-- `strconv.ParseUint(s, 0, 64)`: base prefix, digits, then the underscore check. -/
def parseUint (s : List Char) : Except NumErr Nat :=
  if s = [] then .error .errSyntax
  else
    let (base, ds) := basePrefix s
    match parseUintDigits base ds 0 false with
    | .error e => .error e
    | .ok (n, us) => if us && !underscoreOK s then .error .errSyntax else .ok n

/-- The leading sign `strconv.ParseInt` picks off: whether it is `-`, and the rest. -/
def sign : List Char → Bool × List Char
  | '+' :: r => (false, r)
  | '-' :: r => (true, r)
  | s => (false, s)

/-- `strconv.ParseInt(tok, 0, 64)`, its error as `fmt` reports it. -/
def parseInt (tok : List Char) : Except Error Int :=
  let err (e : NumErr) : Error :=
    .text ("strconv.ParseInt: parsing \"" ++ String.mk tok ++ "\": " ++ e.text)
  if tok = [] then .error (err .errSyntax)
  else
    let (neg, s) := sign tok
    match parseUint s with
    | .error e => .error (err e)
    | .ok un =>
      if !neg && 2 ^ 63 ≤ un then .error (err .errRange)
      else if neg && 2 ^ 63 < un then .error (err .errRange)
      else .ok (if neg then -(un : Int) else un)

/-- `scanInt` with verb `v`: skip space, need a rune, take a sign, the base prefix and the
digits, and parse the token. -/
def scanInt (input : List Char) : Except Error Int := do
  let s ← skipSpace input
  if s = [] then throw .eof
  let (buf, s) : List Char × List Char := match s with
    | c :: r => if c = '+' ∨ c = '-' then ([c], r) else ([], c :: r)
    | [] => ([], [])
  let (buf, s, digits, haveDigits) := scanBasePrefix buf s
  let tok ← scanNumber digits haveDigits buf s
  parseInt tok

/-- `fmt.Fscanf(f, "%v", &i)` for `i` an `int`: `doScanf` skips space, then `scanInt`
reads at most `hugeWid` runes. -/
def fscanfInt (input : List Char) : Except Error Int := do
  let s ← skipSpace input
  scanInt (s.take hugeWid)

/-! ### Decimal digits -/

theorem toDigitsCore_append (f n : Nat) (ds : List Char) :
    Nat.toDigitsCore 10 f n ds = Nat.toDigitsCore 10 f n [] ++ ds := by
  induction f generalizing n ds with
  | zero => rfl
  | succ f ih =>
    simp only [Nat.toDigitsCore]
    split
    · rfl
    · rw [ih _ (_ :: ds), ih _ [_]]; simp

theorem toDigitsCore_fuel : ∀ (f g n : Nat), n < f → n < g →
    Nat.toDigitsCore 10 f n [] = Nat.toDigitsCore 10 g n []
  | 0, _, _, hf, _ => absurd hf (Nat.not_lt_zero _)
  | _, 0, _, _, hg => absurd hg (Nat.not_lt_zero _)
  | f + 1, g + 1, n, hf, hg => by
    simp only [Nat.toDigitsCore]
    split
    · rfl
    · have : n / 10 < n := Nat.div_lt_self (by omega) (by omega)
      rw [toDigitsCore_append f, toDigitsCore_append g, toDigitsCore_fuel f g _ (by omega) (by omega)]

/-- The last digit comes off the end. -/
theorem toDigits_eq (n : Nat) :
    Nat.toDigits 10 n = (if n < 10 then [] else Nat.toDigits 10 (n / 10)) ++ [Nat.digitChar (n % 10)] := by
  unfold Nat.toDigits
  rw [Nat.toDigitsCore]
  split
  · rw [if_pos (by omega)]; rfl
  · rw [if_neg (by omega), toDigitsCore_append, toDigitsCore_fuel n (n / 10 + 1) _ (by omega) (by omega)]

/-- A decimal digit, by its value. -/
def IsDigit (c : Char) : Prop := ∃ d < 10, c = Nat.digitChar d

theorem isDigit_toDigits {n : Nat} {c : Char} (hc : c ∈ Nat.toDigits 10 n) : IsDigit c := by
  induction n using Nat.strong_induction_on with
  | _ n ih =>
    rw [toDigits_eq] at hc
    rcases List.mem_append.1 hc with hc | hc
    · split at hc
      · simp at hc
      · exact ih _ (by omega) hc
    · exact ⟨n % 10, Nat.mod_lt _ (by omega), List.mem_singleton.1 hc⟩

theorem IsDigit.toNat {c : Char} (h : IsDigit c) : 48 ≤ c.toNat ∧ c.toNat ≤ 57 := by
  obtain ⟨d, hd, rfl⟩ := h; interval_cases d <;> decide

theorem IsDigit.not_space {c : Char} (h : IsDigit c) : isSpace c = false := by
  have := h.toNat; simp [isSpace]; omega

theorem IsDigit.mem {c : Char} (h : IsDigit c) : c ∈ decimalDigits := by
  obtain ⟨d, hd, rfl⟩ := h; interval_cases d <;> decide

theorem toDigits_ne_nil (n : Nat) : Nat.toDigits 10 n ≠ [] := by
  rw [toDigits_eq]; simp

theorem IsDigit.of_toDigits_eq_cons {n : Nat} {c : Char} {r : List Char} (h : Nat.toDigits 10 n = c :: r) :
    IsDigit c :=
  isDigit_toDigits (h ▸ List.mem_cons_self _ _)

theorem toDigits_head {n : Nat} (hn : 0 < n) : ∃ c r, Nat.toDigits 10 n = c :: r ∧ c ≠ '0' := by
  induction n using Nat.strong_induction_on with
  | _ n ih =>
    rw [toDigits_eq]
    by_cases h : n < 10
    · refine ⟨Nat.digitChar (n % 10), [], by simp [h], ?_⟩
      rw [Nat.mod_eq_of_lt h]; interval_cases n <;> decide
    · obtain ⟨c, r, hr, hc⟩ := ih (n / 10) (by omega) (by omega)
      exact ⟨c, r ++ [Nat.digitChar (n % 10)], by simp [h, hr], hc⟩

theorem length_toDigits_le {n k : Nat} (h : n < 10 ^ (k + 1)) : (Nat.toDigits 10 n).length ≤ k + 1 := by
  induction k generalizing n with
  | zero => rw [toDigits_eq, if_pos (by simpa using h)]; simp
  | succ k ih =>
    rw [toDigits_eq]
    split
    · simp
    · have := ih (n := n / 10) (by rw [Nat.pow_succ] at h; omega)
      simp; omega


theorem digitChar_toNat {d : Nat} (h : d < 10) : (Nat.digitChar d).toNat = 48 + d := by
  interval_cases d <;> rfl

theorem parseUintDigits_append (base : Nat) (xs ys : List Char) (n : Nat) (us : Bool) :
    parseUintDigits base (xs ++ ys) n us =
      (parseUintDigits base xs n us).bind fun p => parseUintDigits base ys p.1 p.2 := by
  induction xs generalizing n us with
  | nil => rfl
  | cons c cs ih =>
    simp only [List.cons_append, parseUintDigits]
    repeat' split
    all_goals first | rfl | exact ih _ _

theorem parseUintDigits_digit {d : Nat} (hd : d < 10) (n : Nat) (us : Bool) (hn : n * 10 + d ≤ maxUint64) :
    parseUintDigits 10 [Nat.digitChar d] n us = .ok (n * 10 + d, us) := by
  have hc : Nat.digitChar d ≠ '_' ∧ ('0' ≤ Nat.digitChar d ∧ Nat.digitChar d ≤ '9') ∧
      (Nat.digitChar d).toNat - '0'.toNat = d := by
    interval_cases d <;> decide
  have h1 : ¬ 10 ≤ d := by omega
  have h2 : ¬ maxUint64 / 10 + 1 ≤ n := by unfold maxUint64 at *; omega
  have h3 : ¬ maxUint64 < n * 10 + d := by omega
  simp only [parseUintDigits, hc.1, hc.2.1, hc.2.2, if_false, if_true, and_self, h1, h2, h3]

theorem parseUintDigits_toDigits (us : Bool) :
    ∀ n, n ≤ maxUint64 → parseUintDigits 10 (Nat.toDigits 10 n) 0 us = .ok (n, us) := by
  intro n
  induction n using Nat.strong_induction_on with
  | _ n ih =>
    intro hn
    rw [toDigits_eq, parseUintDigits_append]
    have hd := Nat.mod_lt n (show 0 < 10 by omega)
    split
    · rename_i h
      rw [Nat.mod_eq_of_lt h] at hd ⊢
      simpa using parseUintDigits_digit hd 0 us (by omega)
    · rw [ih (n / 10) (by omega) (by omega)]
      simp only [Except.bind]
      rw [parseUintDigits_digit hd _ us (by omega), Nat.div_add_mod' n 10]


/-! ### Reading back what `%v` wrote -/

theorem basePrefix_decimal {c : Char} (hc : c ≠ '0') (r : List Char) :
    basePrefix (c :: r) = (10, c :: r) := by
  unfold basePrefix; split <;> simp_all

theorem sign_digit {c : Char} (hc : IsDigit c) (r : List Char) : sign (c :: r) = (false, c :: r) := by
  have := hc.toNat
  unfold sign; split <;> simp_all

theorem parseUint_toDigits {n : Nat} (hn : n ≤ maxUint64) : parseUint (Nat.toDigits 10 n) = .ok n := by
  rcases Nat.eq_zero_or_pos n with rfl | hpos
  · rfl
  · obtain ⟨c, r, hr, hc⟩ := toDigits_head hpos
    have hp := parseUintDigits_toDigits false n hn
    rw [hr] at hp ⊢
    simp [parseUint, basePrefix_decimal hc, hp]

theorem skipSpace_cons {c : Char} (hc : isSpace c = false) (rest : List Char) :
    skipSpace (c :: rest) = .ok (c :: rest) := by
  have h1 : c ≠ '\r' := by rintro rfl; simp [isSpace] at hc
  have h2 : c ≠ '\n' := by rintro rfl; simp [isSpace] at hc
  simp [skipSpace, h1, h2, hc]

theorem scanBasePrefix_decimal {c : Char} (hc : c ≠ '0') (buf rest : List Char) :
    scanBasePrefix buf (c :: rest) = (buf, c :: rest, decimalDigits, false) := by
  unfold scanBasePrefix; split <;> simp_all

theorem takeWhile_toDigits (n : Nat) (rest : List Char) :
    (Nat.toDigits 10 n ++ '\n' :: rest).takeWhile (· ∈ decimalDigits) = Nat.toDigits 10 n := by
  rw [List.takeWhile_append_of_pos (fun a ha => by simpa using (isDigit_toDigits ha).mem)]
  simp [decimalDigits]

/-- A positive number's decimal text: a first digit other than 0, and the digits after it,
which a scan up to the next newline reads whole. -/
theorem toDigits_cons {n : Nat} (hn : 0 < n) : ∃ c r, Nat.toDigits 10 n = c :: r ∧ c ≠ '0' ∧ IsDigit c ∧
    (r ++ ['\n']).takeWhile (· ∈ decimalDigits) = r := by
  obtain ⟨c, r, hr, hc0⟩ := toDigits_head hn
  have hc := IsDigit.of_toDigits_eq_cons hr
  have ht := takeWhile_toDigits n []
  rw [hr] at ht
  exact ⟨c, r, hr, hc0, hc, by simpa [List.takeWhile_cons, hc.mem] using ht⟩

theorem parseInt_fmtInteger {v : Int} (h1 : -2 ^ 63 ≤ v) (h2 : v < 2 ^ 63) : parseInt (fmtInteger v) = .ok v := by
  cases v with
  | ofNat n =>
    simp only [Int.ofNat_eq_coe] at h2
    have hp := parseUint_toDigits (n := n) (by unfold maxUint64; omega)
    obtain ⟨c, r, hr⟩ := List.exists_cons_of_ne_nil (toDigits_ne_nil n)
    have hc := IsDigit.of_toDigits_eq_cons hr
    have hn : ¬ 2 ^ 63 ≤ n := by omega
    simp [parseInt, fmtInteger, hr, sign_digit hc] at hp ⊢
    simp [hp, hn]
    omega
  | negSucc m =>
    rw [Int.negSucc_eq] at h1
    have hp := parseUint_toDigits (n := m + 1) (by unfold maxUint64; omega)
    simp [parseInt, fmtInteger, sign, hp]
    rw [if_neg (by omega), Int.negSucc_eq]
    congr 1
    omega


theorem digit_ne_sign {c : Char} (hc : IsDigit c) : ¬ (c = '+' ∨ c = '-') := by
  have := hc.toNat; rintro (rfl | rfl) <;> simp at this

theorem scanInt_fmtInteger {v : Int} (h1 : -2 ^ 63 ≤ v) (h2 : v < 2 ^ 63) :
    scanInt (fmtInteger v ++ ['\n']) = .ok v := by
  have hp := parseInt_fmtInteger h1 h2
  cases v with
  | ofNat n =>
    rcases Nat.eq_zero_or_pos n with rfl | hpos
    · rfl
    · obtain ⟨c, r, hr, hc0, hc, ht⟩ := toDigits_cons hpos
      simp only [fmtInteger, Int.ofNat_eq_coe, hr] at hp ⊢
      simp [scanInt, bind, Except.bind, pure, Except.pure, skipSpace_cons hc.not_space, digit_ne_sign hc, scanBasePrefix_decimal hc0, scanNumber,
        hc.mem, ht, hp]
  | negSucc m =>
    obtain ⟨c, r, hr, hc0, hc, ht⟩ := toDigits_cons (n := m + 1) (by omega)
    simp only [fmtInteger, hr] at hp ⊢
    simp [scanInt, bind, Except.bind, pure, Except.pure, skipSpace_cons (c := '-') (by decide), scanBasePrefix_decimal hc0, scanNumber,
      hc.mem, ht, hp]


theorem length_fmtInteger_le {v : Int} (h1 : -2 ^ 63 ≤ v) (h2 : v < 2 ^ 63) : (fmtInteger v).length ≤ 20 := by
  cases v with
  | ofNat n =>
    simp only [Int.ofNat_eq_coe] at h2
    have := length_toDigits_le (n := n) (k := 19) (by omega)
    simp only [fmtInteger]; omega
  | negSucc m =>
    rw [Int.negSucc_eq] at h1
    have := length_toDigits_le (n := m + 1) (k := 18) (by omega)
    simp only [fmtInteger, List.length_cons]; omega

theorem fmtInteger_head (v : Int) : ∃ c r, fmtInteger v = c :: r ∧ isSpace c = false := by
  cases v with
  | ofNat n =>
    obtain ⟨c, r, h⟩ := List.exists_cons_of_ne_nil (toDigits_ne_nil n)
    exact ⟨c, r, by simp [fmtInteger, h], (IsDigit.of_toDigits_eq_cons h).not_space⟩
  | negSucc m => exact ⟨'-', _, rfl, by decide⟩

/-- **`%v` reads back an `int` it wrote**, for every value of Go's `int`. -/
theorem fscanfInt_fmtInteger {v : Int} (h1 : -2 ^ 63 ≤ v) (h2 : v < 2 ^ 63) :
    fscanfInt (fmtInteger v ++ ['\n']) = .ok v := by
  obtain ⟨c, r, hcr, hc⟩ := fmtInteger_head v
  have hl := length_fmtInteger_le h1 h2
  have hs : skipSpace (fmtInteger v ++ ['\n']) = .ok (fmtInteger v ++ ['\n']) := by
    rw [hcr]; exact skipSpace_cons hc _
  have ht : (fmtInteger v ++ ['\n']).take hugeWid = fmtInteger v ++ ['\n'] :=
    List.take_of_length_le (by simp [hugeWid]; omega)
  simp only [fscanfInt, bind, Except.bind, hs, ht, scanInt_fmtInteger h1 h2]

theorem takeWhile_take (p : Char → Bool) :
    ∀ (l : List Char) (k : Nat), (l.take k).takeWhile p = (l.takeWhile p).take k
  | [], _ => by simp
  | _ :: _, 0 => by simp
  | c :: l, k + 1 => by
    simp only [List.take_succ_cons, List.takeWhile_cons]
    split <;> simp [takeWhile_take p l k]

theorem fmtBytes_cons (x : UInt8) (xs : List UInt8) :
    ∃ t, fmtBytes (x :: xs) ++ ['\n'] = '[' :: Nat.toDigits 10 x.toNat ++ t ∧
      t.takeWhile (fun c => !isSpace c) = if xs = [] then [']'] else [] := by
  cases xs with
  | nil => exact ⟨[']', '\n'], by simp [fmtBytes, List.intercalate], by decide⟩
  | cons y ys =>
    refine ⟨' ' :: (List.intercalate [' '] ((y :: ys).map fun x => Nat.toDigits 10 x.toNat) ++ [']', '\n']),
      ?_, by simp [List.takeWhile_cons, isSpace]⟩
    simp [fmtBytes, List.intercalate, List.intersperse_cons_cons]

/-- What `%v` reads back from a `[]byte` it wrote: the first word of `[b₀ b₁ ...]`. -/
theorem fscanfBytes_fmtBytes (x : UInt8) (xs : List UInt8) :
    fscanfBytes (fmtBytes (x :: xs) ++ ['\n']) =
      .ok (utf8 ('[' :: Nat.toDigits 10 x.toNat ++ if xs = [] then [']'] else [])) := by
  obtain ⟨t, ht, htw⟩ := fmtBytes_cons x xs
  have hd : ∀ c ∈ Nat.toDigits 10 x.toNat, (!isSpace c) = true := fun c hc => by
    simp [(isDigit_toDigits hc).not_space]
  have hlen : (Nat.toDigits 10 x.toNat).length ≤ 3 :=
    length_toDigits_le (k := 2) (by have : x.toNat < 256 := x.val.isLt; omega)
  rw [ht, List.cons_append]
  unfold fscanfBytes
  rw [show hugeWid = (2 ^ 30 - 1) + 1 from rfl]
  have hb : isSpace '[' = false := by decide
  simp only [bind, Except.bind, pure, Except.pure, List.take_succ_cons, skipSpace_cons hb,
    List.cons_ne_nil, if_false, List.takeWhile_cons, hb, Bool.not_false, if_true, takeWhile_take,
    List.takeWhile_append_of_pos hd, htw]
  congr 3
  apply List.take_of_length_le
  split <;> simp <;> omega


/-- **Only one non-empty `[]byte` reads back as written**: `%v` prints `[b₀ b₁ ...]` and
`Fscanf` reads its first word, so the two agree only on the bytes of `"[91"`. -/
theorem fscanfBytes_fmtBytes_eq_iff {b : List UInt8} (hb : b ≠ []) :
    fscanfBytes (fmtBytes b ++ ['\n']) = .ok b ↔ b = [91, 57, 49] := by
  obtain ⟨x, xs, rfl⟩ := List.exists_cons_of_ne_nil hb
  constructor
  · rw [fscanfBytes_fmtBytes]
    intro h
    simp only [Except.ok.injEq, utf8, List.flatMap_cons, List.cons_append] at h
    have h91 : String.utf8EncodeChar '[' = [91] := by decide
    rw [h91, List.singleton_append, List.cons.injEq] at h
    obtain ⟨rfl, h⟩ := h
    have hd : Nat.toDigits 10 (91 : UInt8).toNat = ['9', '1'] := by decide
    rw [hd] at h
    by_cases hxs : xs = []
    · subst hxs; simp at h; exact absurd h.1 (by decide)
    · simp only [hxs, if_false, List.append_nil] at h
      rw [← h]; decide
  · rintro h; cases h; rfl

/-- `SkipSpace` stops at the end of the input or at a rune that is not a space. -/
theorem skipSpace_eq_ok {s s' : List Char} (e : skipSpace s = .ok s') :
    s' = [] ∨ ∃ c r, s' = c :: r ∧ isSpace c = false := by
  induction s with
  | nil => simp only [skipSpace, Except.ok.injEq] at e; exact .inl e.symm
  | cons c rest ih =>
    rw [skipSpace] at e
    split at e
    · exact ih e
    · split at e
      · cases e
      · split at e
        · exact ih e
        · cases e; exact .inr ⟨c, rest, rfl, by simpa using ‹¬isSpace c = true›⟩

/-- The only error of `SkipSpace` is a newline where a word should be. -/
theorem skipSpace_error {s : List Char} {e : Error} (h : skipSpace s = .error e) :
    e = .text "unexpected newline" := by
  induction s with
  | nil => simp [skipSpace] at h
  | cons c rest ih =>
    rw [skipSpace] at h
    split at h
    · exact ih h
    · split at h
      · cases h; rfl
      · split at h
        · exact ih h
        · cases h

/-- **`%v` scans a `[]byte` as a word**: what it returns is never empty, and it never reports
`io.ErrUnexpectedEOF`, so `loadStateData` never takes such a scan for a missing value. -/
theorem fscanfBytes_word (input : List Char) :
    (∀ v, fscanfBytes input = .ok v → v ≠ []) ∧ fscanfBytes input ≠ .error .unexpectedEOF := by
  unfold fscanfBytes
  cases h₁ : skipSpace input with
  | error e => simp [bind, Except.bind, skipSpace_error h₁]
  | ok s₁ =>
    cases h₂ : skipSpace (s₁.take hugeWid) with
    | error e => simp [bind, Except.bind, h₂, skipSpace_error h₂]
    | ok s₂ =>
      rcases skipSpace_eq_ok h₂ with rfl | ⟨c, r, rfl, hc⟩
      · simp [bind, Except.bind, h₂, throw, throwThe, MonadExceptOf.throw]
      · simp only [bind, Except.bind, h₂, skipSpace_cons hc, List.cons_ne_nil, if_false, pure, Except.pure,
          List.takeWhile_cons, hc, Bool.not_false, if_true]
        refine ⟨fun v h => ?_, nofun⟩
        cases h
        exact List.ne_nil_of_length_pos (by simp [utf8, Char.utf8Size_pos])

end Jetpack.Fmt
