import CommitCiPreflight.Json
import CommitCiPreflight.Text

/-! JSON text: the compact writer and the reader of `serde_json`. The reader keeps the
members of an object in document order, repetitions included, so that both a `Value` and
a typed record can be taken from its result. It is structurally recursive on fuel, and an
input is always read with more fuel than it has characters. -/
namespace CommitCiPreflight
namespace JsonText

/-- Decimal text of floating-point numbers, which the crates below `serde_json` convert. -/
structure FloatText where
  format : FiniteF64 → List Char
  parse : List Char → Option FiniteF64

def hexDigit (n : ℕ) : Char := Char.ofNat (if n < 10 then 48+n else 87+n)

def escapeChar (c : Char) : List Char :=
  if c = '"' then ['\\','"']
  else if c = '\\' then ['\\','\\']
  else if c = '\x08' then ['\\','b']
  else if c = '\x0c' then ['\\','f']
  else if c = '\n' then ['\\','n']
  else if c = '\r' then ['\\','r']
  else if c = '\t' then ['\\','t']
  else if c.toNat < 0x20 then ['\\','u','0','0',hexDigit (c.toNat/16),hexDigit (c.toNat%16)]
  else [c]

def printString (s : String) : List Char := '"'::(s.toList.flatMap escapeChar++['"'])

variable (ft : FloatText) {c : Char} {rest : List Char} {v : Json}

def printNumber : Number → List Char
  | .posInt n => Nat.toDigits 10 n.toNat
  | .negInt n _ => '-'::Nat.toDigits 10 n.natAbs
  | .float f => ft.format f

mutual
def print : Json → List Char
  | .null => ['n','u','l','l']
  | .bool true => ['t','r','u','e']
  | .bool false => ['f','a','l','s','e']
  | .num n => printNumber ft n
  | .str s => printString s
  | .arr [] => ['[',']']
  | .arr (x::xs) => '['::(print x++printItems xs)
  | .obj [] => ['{','}']
  | .obj ((k,v)::ms) => '{'::(printString k++ ':'::(print v++printMembers ms))
def printItems : List Json → List Char
  | [] => [']']
  | x::xs => ','::(print x++printItems xs)
def printMembers : List (String × Json) → List Char
  | [] => ['}']
  | (k,v)::ms => ','::(printString k++ ':'::(print v++printMembers ms))
end

def isBlank (c : Char) : Bool := c = ' ' || c = '\n' || c = '\t' || c = '\r'

def skipBlank (cs : List Char) : List Char := cs.dropWhile isBlank

def hexValue (c : Char) : Option ℕ :=
  if '0' ≤ c ∧ c ≤ '9' then some (c.toNat-48)
  else if 'a' ≤ c ∧ c ≤ 'f' then some (c.toNat-87)
  else if 'A' ≤ c ∧ c ≤ 'F' then some (c.toNat-55)
  else none

def hexWord (a b c d : Char) : Option ℕ :=
  match hexValue a, hexValue b, hexValue c, hexValue d with
  | some a, some b, some c, some d => some (((a*16+b)*16+c)*16+d)
  | _, _, _, _ => none

def simpleEscape (c : Char) : Option Char :=
  if c = '"' ∨ c = '\\' ∨ c = '/' then some c
  else if c = 'b' then some '\x08'
  else if c = 'f' then some '\x0c'
  else if c = 'n' then some '\n'
  else if c = 'r' then some '\r'
  else if c = 't' then some '\t'
  else none

def push (c : Char) (r : Option (List Char × List Char)) : Option (List Char × List Char) :=
  r.map fun p => (c::p.1,p.2)

/-- The characters of a string up to its closing quote, and what follows the quote. A
surrogate escape is accepted only as a pair. -/
def stringBody : List Char → Option (List Char × List Char)
  | [] => none
  | c::rest =>
    if c = '"' then some ([],rest)
    else if c = '\\' then
      match rest with
      | [] => none
      | e::rest =>
        if e = 'u' then
          match rest with
          | h₁::h₂::h₃::h₄::rest =>
            match hexWord h₁ h₂ h₃ h₄ with
            | none => none
            | some n =>
              if n < 0xd800 ∨ 0xe000 ≤ n then push (Char.ofNat n) (stringBody rest)
              else if n < 0xdc00 then
                match rest with
                | '\\':: 'u'::l₁::l₂::l₃::l₄::rest =>
                  match hexWord l₁ l₂ l₃ l₄ with
                  | none => none
                  | some m =>
                    if 0xdc00 ≤ m ∧ m < 0xe000 then
                      push (Char.ofNat (0x10000+(n-0xd800)*0x400+(m-0xdc00))) (stringBody rest)
                    else none
                | _ => none
              else none
          | _ => none
        else
          match simpleEscape e with
          | some d => push d (stringBody rest)
          | none => none
    else if c.toNat < 0x20 then none
    else push c (stringBody rest)

def spanDigits (cs : List Char) : List Char × List Char :=
  (cs.takeWhile Char.isDigit,cs.dropWhile Char.isDigit)

/-- The digits before the point: `0`, or digits that do not start with `0`. -/
def intPart : List Char → Option (List Char × List Char)
  | [] => none
  | c::rest =>
    if c = '0' then
      if (spanDigits rest).1 = [] then some (['0'],rest) else none
    else if c.isDigit then some (c::(spanDigits rest).1,(spanDigits rest).2)
    else none

def fracPart : List Char → Option (List Char × List Char)
  | [] => some ([],[])
  | c::rest =>
    if c = '.' then
      if (spanDigits rest).1 = [] then none
      else some ('.'::(spanDigits rest).1,(spanDigits rest).2)
    else some ([],c::rest)

def signPart : List Char → List Char × List Char
  | [] => ([],[])
  | c::rest => if c = '+' ∨ c = '-' then ([c],rest) else ([],c::rest)

def expPart : List Char → Option (List Char × List Char)
  | [] => some ([],[])
  | c::rest =>
    if c = 'e' ∨ c = 'E' then
      let sign := signPart rest
      if (spanDigits sign.2).1 = [] then none
      else some (c::(sign.1++(spanDigits sign.2).1),(spanDigits sign.2).2)
    else some ([],c::rest)

/-- A token without fraction and exponent is an integer where one of the two integer
types holds it; every other token is a float. -/
def classify (neg : Bool) (int frac exp : List Char) : Option Number :=
  let n := Nat.ofDigitChars 10 int 0
  if frac = [] ∧ exp = [] ∧ neg = false ∧ n < 2^64 then some (.posInt n.toUInt64)
  else if h : frac = [] ∧ exp = [] ∧ neg = true ∧ 0 < n ∧ n ≤ 2^63 then
    some (.negInt (-n) (by omega))
  else (ft.parse ((if neg then ['-'] else [])++int++frac++exp)).map .float

def unsignedNumber (neg : Bool) (cs : List Char) : Option (Number × List Char) :=
  match intPart cs with
  | none => none
  | some (int,rest) =>
    match fracPart rest with
    | none => none
    | some (frac,rest) =>
      match expPart rest with
      | none => none
      | some (exp,rest) => (classify ft neg int frac exp).map fun n => (n,rest)

def parseNumber : List Char → Option (Number × List Char)
  | [] => none
  | c::rest => if c = '-' then unsignedNumber ft true rest else unsignedNumber ft false (c::rest)

def keyword (word : List Char) (value : Json) (cs : List Char) : Option (Json × List Char) :=
  if word <+: cs then some (value,cs.drop word.length) else none

mutual
/-- One value. `depth` is what remains of the recursion limit: entering an array or an
object takes one from it and is refused when nothing is left. -/
def parseValue : ℕ → ℕ → List Char → Option (Json × List Char)
  | 0, _, _ => none
  | fuel+1, depth, input =>
    match skipBlank input with
    | [] => none
    | c::rest =>
      if c = 'n' then keyword ['u','l','l'] .null rest
      else if c = 't' then keyword ['r','u','e'] (.bool true) rest
      else if c = 'f' then keyword ['a','l','s','e'] (.bool false) rest
      else if c = '"' then (stringBody rest).map fun p => (.str (String.ofList p.1),p.2)
      else if c = '[' then
        if depth ≤ 1 then none
        else
          match skipBlank rest with
          | [] => none
          | d::more =>
            if d = ']' then some (.arr [],more)
            else (parseItems fuel (depth-1) (d::more)).map fun p => (.arr p.1,p.2)
      else if c = '{' then
        if depth ≤ 1 then none
        else
          match skipBlank rest with
          | [] => none
          | d::more =>
            if d = '}' then some (.obj [],more)
            else (parseMembers fuel (depth-1) (d::more)).map fun p => (.obj p.1,p.2)
      else (parseNumber ft (c::rest)).map fun p => (.num p.1,p.2)
def parseItems : ℕ → ℕ → List Char → Option (List Json × List Char)
  | 0, _, _ => none
  | fuel+1, depth, input =>
    match parseValue fuel depth input with
    | none => none
    | some (x,rest) =>
      match skipBlank rest with
      | [] => none
      | d::more =>
        if d = ',' then (parseItems fuel depth more).map fun p => (x::p.1,p.2)
        else if d = ']' then some ([x],more)
        else none
def parseMembers : ℕ → ℕ → List Char → Option (List (String × Json) × List Char)
  | 0, _, _ => none
  | fuel+1, depth, input =>
    match skipBlank input with
    | [] => none
    | q::rest =>
      if q = '"' then
        match stringBody rest with
        | none => none
        | some (k,rest) =>
          match skipBlank rest with
          | [] => none
          | d::more =>
            if d = ':' then
              match parseValue fuel depth more with
              | none => none
              | some (v,rest) =>
                match skipBlank rest with
                | [] => none
                | d::more =>
                  if d = ',' then
                    (parseMembers fuel depth more).map fun p => ((String.ofList k,v)::p.1,p.2)
                  else if d = '}' then some ([(String.ofList k,v)],more)
                  else none
            else none
      else none
end

/-- A whole document: one value and only blanks after it. -/
def parse (limit : ℕ) (input : List Char) : Option Json :=
  match parseValue ft (input.length+1) limit input with
  | some (v,rest) => if skipBlank rest = [] then some v else none
  | none => none

def Boundary (rest : List Char) : Prop := ∀ c ∈ rest.head?, c = ',' ∨ c = ']' ∨ c = '}'

theorem boundary_nil : Boundary [] := by simp [Boundary]

theorem boundary_cons {c : Char} {rest : List Char} (h : c = ',' ∨ c = ']' ∨ c = '}') :
    Boundary (c::rest) := by
  simpa [Boundary] using h

theorem skipBlank_cons (h : isBlank c = false) (rest : List Char) :
    skipBlank (c::rest) = c::rest := by
  simp [skipBlank,h]

theorem spanDigits_append {ds : List Char} (hds : ∀ c ∈ ds, c.isDigit = true)
    (hrest : ∀ c ∈ rest.head?, c.isDigit = false) : spanDigits (ds++rest) = (ds,rest) := by
  have hrest' : rest.takeWhile Char.isDigit = [] ∧ rest.dropWhile Char.isDigit = rest := by
    cases rest with
    | nil => simp
    | cons c cs => simp [hrest c (by simp)]
  rw [spanDigits,List.takeWhile_append_of_pos hds,List.dropWhile_append_of_pos hds,
    hrest'.1,hrest'.2,List.append_nil]

theorem Boundary.not_digit (h : Boundary rest) : ∀ c ∈ rest.head?, c.isDigit = false := by
  intro c hc
  rcases h c hc with rfl | rfl | rfl <;> rfl

theorem hexValue_hexDigit : ∀ n < 16, hexValue (hexDigit n) = some n := by decide

theorem stringBody_escapeChar (c : Char) (rest : List Char) :
    stringBody (escapeChar c++rest) = push c (stringBody rest) := by
  unfold escapeChar
  split_ifs with h₁ h₂ h₃ h₄ h₅ h₆ h₇ h₈
  · simp [h₁,stringBody.eq_def ('\\'::_),simpleEscape]
  · simp [h₂,stringBody.eq_def ('\\'::_),simpleEscape]
  · simp [h₃,stringBody.eq_def ('\\'::_),simpleEscape]
  · simp [h₄,stringBody.eq_def ('\\'::_),simpleEscape]
  · simp [h₅,stringBody.eq_def ('\\'::_),simpleEscape]
  · simp [h₆,stringBody.eq_def ('\\'::_),simpleEscape]
  · simp [h₇,stringBody.eq_def ('\\'::_),simpleEscape]
  · have hhigh := hexValue_hexDigit (c.toNat/16) (by omega)
    have hlow := hexValue_hexDigit (c.toNat%16) (by omega)
    have hzero : hexValue '0' = some 0 := rfl
    have hword : hexWord '0' '0' (hexDigit (c.toNat/16)) (hexDigit (c.toNat%16)) =
        some c.toNat := by
      simp only [hexWord,hzero,hhigh,hlow,Option.some.injEq]
      omega
    simp [stringBody.eq_def ('\\'::_),hword,show c.toNat < 0xd800 by omega]
  · simp [stringBody.eq_def (c::_),h₁,h₂,h₈]

theorem stringBody_append (cs rest : List Char) :
    stringBody (cs.flatMap escapeChar++ '"'::rest) = some (cs,rest) := by
  induction cs with
  | nil => simp [stringBody.eq_def ('"'::_)]
  | cons c cs ih =>
    rw [List.flatMap_cons,List.append_assoc,stringBody_escapeChar,ih]
    rfl

def IntShape (int : List Char) : Prop :=
  int = ['0'] ∨ ∃ d ds, int = d::ds ∧ d ≠ '0' ∧ ∀ c ∈ int, c.isDigit = true

def FracShape (frac : List Char) : Prop :=
  frac = [] ∨ ∃ ds, frac = '.'::ds ∧ ds ≠ [] ∧ ∀ c ∈ ds, c.isDigit = true

def ExpShape (exp : List Char) : Prop :=
  exp = [] ∨ ∃ e sign ds, exp = e::(sign++ds) ∧ (e = 'e' ∨ e = 'E') ∧
    (sign = [] ∨ sign = ['+'] ∨ sign = ['-']) ∧ ds ≠ [] ∧ ∀ c ∈ ds, c.isDigit = true

/-- The text of a float is a number token with a fraction or an exponent. -/
def FloatText.Token (ft : FloatText) (f : FiniteF64) : Prop :=
  ∃ (neg : Bool) (int frac exp : List Char),
    ft.format f = (if neg then ['-'] else [])++int++frac++exp ∧
      IntShape int ∧ FracShape frac ∧ ExpShape exp ∧ (frac ≠ [] ∨ exp ≠ [])

/-- The floats that are read back from their text. The reader of `serde_json` is approximate
unless its feature `float_roundtrip` is on, so not every float is one of them. -/
def FloatText.readable (ft : FloatText) : Set FiniteF64 :=
  {f | ft.Token f ∧ ft.parse (ft.format f) = some f}

/-- What the writer of floats is relied on for. -/
structure FloatText.Lawful (ft : FloatText) : Prop where
  token : ∀ f, ft.Token f
  format_injective : Function.Injective ft.format

theorem digitChar_ne_zero : ∀ n < 10, n ≠ 0 → n.digitChar ≠ '0' := by decide

theorem toDigits_head_ne_zero (n : ℕ) (hn : n ≠ 0) :
    ∀ c ∈ (Nat.toDigits 10 n).head?, c ≠ '0' := by
  induction n using Nat.strong_induction_on with
  | _ n ih =>
    by_cases hlt : n < 10
    · rw [Nat.toDigits_of_lt_base hlt]
      simpa using digitChar_ne_zero n hlt hn
    · have hdiv := ih (n/10) (by omega) (by omega)
      rw [Nat.toDigits_of_base_le (by omega) (by omega)]
      cases h : Nat.toDigits 10 (n/10) with
      | nil => exact absurd h Nat.toDigits_ne_nil
      | cons d ds => simpa [h] using hdiv

theorem intShape_toDigits (n : ℕ) : IntShape (Nat.toDigits 10 n) := by
  by_cases hn : n = 0
  · subst hn
    exact Or.inl (Nat.toDigits_zero 10)
  · right
    have hdigits : ∀ c ∈ Nat.toDigits 10 n, c.isDigit = true :=
      fun c hc => Nat.isDigit_of_mem_toDigits (by omega) (by omega) hc
    have hhead := toDigits_head_ne_zero n hn
    cases h : Nat.toDigits 10 n with
    | nil => exact absurd h Nat.toDigits_ne_nil
    | cons d ds =>
      rw [h] at hdigits hhead
      exact ⟨d,ds,rfl,hhead d (by simp),hdigits⟩

theorem IntShape.head {int : List Char} (h : IntShape int) :
    ∃ c cs, int = c::cs ∧ c.isDigit = true := by
  rcases h with rfl | ⟨d,ds,rfl,_,hdigits⟩
  · exact ⟨'0',[],rfl,rfl⟩
  · exact ⟨d,ds,rfl,hdigits d (by simp)⟩

theorem intPart_append {int : List Char} (h : IntShape int)
    (hrest : ∀ c ∈ rest.head?, c.isDigit = false) : intPart (int++rest) = some (int,rest) := by
  rcases h with rfl | ⟨d,ds,rfl,hd,hdigits⟩
  · have hspan : spanDigits ([]++rest) = ([],rest) := spanDigits_append (by simp) hrest
    rw [List.nil_append] at hspan
    simp [intPart,hspan]
  · have hdig : d.isDigit = true := hdigits d (by simp)
    have hspan := spanDigits_append (fun c hc => hdigits c (List.mem_cons_of_mem d hc)) hrest
    simp [intPart,hd,hdig,hspan]

theorem fracPart_append {frac : List Char} (h : FracShape frac)
    (hrest : ∀ c ∈ rest.head?, c.isDigit = false ∧ c ≠ '.') :
    fracPart (frac++rest) = some (frac,rest) := by
  rcases h with rfl | ⟨ds,rfl,hne,hdigits⟩
  · cases rest with
    | nil => rfl
    | cons c cs => simp [fracPart,(hrest c (by simp)).2]
  · have hspan := spanDigits_append hdigits fun c hc => (hrest c hc).1
    simp [fracPart,hspan,hne]

theorem expPart_append {exp : List Char} (h : ExpShape exp) (hrest : Boundary rest) :
    expPart (exp++rest) = some (exp,rest) := by
  rcases h with rfl | ⟨e,sign,ds,rfl,he,hsign,hne,hdigits⟩
  · cases rest with
    | nil => rfl
    | cons c cs => rcases hrest c (by simp) with rfl | rfl | rfl <;> rfl
  · have hspan := spanDigits_append hdigits hrest.not_digit
    have hds : signPart (sign++(ds++rest)) = (sign,ds++rest) := by
      cases ds with
      | nil => simp at hne
      | cons d ds =>
        have hd : d.isDigit = true := hdigits d (by simp)
        have hplus : d ≠ '+' ∧ d ≠ '-' := by
          constructor <;> rintro rfl <;> simp at hd
        rcases hsign with rfl | rfl | rfl <;> simp [signPart,hplus]
    simp [expPart,he,hds,hspan,hne]

theorem ExpShape.head {exp : List Char} (h : ExpShape exp) (hrest : Boundary rest) :
    ∀ c ∈ (exp++rest).head?, c.isDigit = false ∧ c ≠ '.' := by
  intro c hc
  rcases h with rfl | ⟨e,sign,ds,rfl,he,_⟩
  · rcases hrest c hc with rfl | rfl | rfl <;> decide
  · simp only [List.cons_append,List.head?_cons,Option.mem_def,Option.some.injEq] at hc
    subst hc
    rcases he with rfl | rfl <;> decide

theorem FracShape.head {frac : List Char} (h : FracShape frac)
    (hrest : ∀ c ∈ rest.head?, c.isDigit = false) :
    ∀ c ∈ (frac++rest).head?, c.isDigit = false := by
  intro c hc
  rcases h with rfl | ⟨ds,rfl,_⟩
  · exact hrest c hc
  · simp only [List.cons_append,List.head?_cons,Option.mem_def,Option.some.injEq] at hc
    subst hc
    rfl

theorem unsignedNumber_append (neg : Bool) {int frac exp : List Char} (hi : IntShape int)
    (hf : FracShape frac) (he : ExpShape exp) (hrest : Boundary rest) :
    unsignedNumber ft neg (int++(frac++(exp++rest))) =
      (classify ft neg int frac exp).map fun n => (n,rest) := by
  have hexp := he.head hrest
  have hfrac := hf.head fun c hc => (hexp c hc).1
  simp [unsignedNumber,intPart_append hi hfrac,fracPart_append hf hexp,expPart_append he hrest]

theorem unsignedNumber_toDigits (neg : Bool) (n : ℕ) (hrest : Boundary rest) :
    unsignedNumber ft neg (Nat.toDigits 10 n++rest) =
      (classify ft neg (Nat.toDigits 10 n) [] []).map fun m => (m,rest) := by
  have h := unsignedNumber_append ft neg (intShape_toDigits n) (Or.inl rfl)
    (Or.inl rfl) hrest
  simpa using h

theorem printNumber_head {n : Number} (hn : ∀ f, n = .float f → ft.Token f) :
    ∃ c cs, printNumber ft n = c::cs ∧ (c = '-' ∨ c.isDigit = true) := by
  cases n with
  | posInt n =>
    obtain ⟨c,cs,hc,hd⟩ := (intShape_toDigits n.toNat).head
    exact ⟨c,cs,hc,Or.inr hd⟩
  | negInt n range => exact ⟨'-',_,rfl,Or.inl rfl⟩
  | float f =>
    obtain ⟨neg,int,frac,exp,hform,hi,_⟩ := hn f rfl
    obtain ⟨c,cs,rfl,hd⟩ := hi.head
    cases neg with
    | true => exact ⟨'-',_,hform,Or.inl rfl⟩
    | false => exact ⟨c,_,hform,Or.inr hd⟩

theorem parseNumber_neg (cs : List Char) : parseNumber ft ('-'::cs) = unsignedNumber ft true cs :=
  rfl

theorem parseNumber_digit (hc : c.isDigit = true) (cs : List Char) :
    parseNumber ft (c::cs) = unsignedNumber ft false (c::cs) := by
  have hne : c ≠ '-' := by rintro rfl; simp at hc
  simp [parseNumber,hne]

theorem parseNumber_print {n : Number} (hn : ∀ f, n = .float f → f ∈ ft.readable)
    (hrest : Boundary rest) :
    parseNumber ft (printNumber ft n++rest) = some (n,rest) := by
  cases n with
  | posInt n =>
    obtain ⟨c,cs,hc,hd⟩ := (intShape_toDigits n.toNat).head
    have hclass : classify ft false (Nat.toDigits 10 n.toNat) [] [] = some (.posInt n) := by
      simp [classify,Nat.ofDigitChars_ten_toDigits,n.toNat_lt]
    have hread := unsignedNumber_toDigits ft false n.toNat hrest
    rw [hclass,hc] at hread
    rw [printNumber,hc,List.cons_append,parseNumber_digit ft hd]
    simpa using hread
  | negInt n range =>
    have hclass : classify ft true (Nat.toDigits 10 n.natAbs) [] [] =
        some (.negInt n range) := by
      have hpos : 0 < n.natAbs ∧ n.natAbs ≤ 2^63 := by omega
      simp only [classify,Nat.ofDigitChars_ten_toDigits]
      rw [if_neg (by simp),dif_pos ⟨trivial,trivial,trivial,hpos⟩]
      simp only [Option.some.injEq,Number.negInt.injEq]
      omega
    rw [printNumber,List.cons_append,parseNumber_neg,unsignedNumber_toDigits ft true _ hrest,
      hclass]
    rfl
  | float f =>
    obtain ⟨⟨neg,int,frac,exp,hform,hi,hf,he,hne⟩,hparse⟩ := hn f rfl
    have hclass : classify ft neg int frac exp = some (.float f) := by
      have hnot : ¬(frac = [] ∧ exp = []) := by tauto
      simp only [classify]
      rw [if_neg (by tauto),dif_neg (by tauto),← hform,hparse]
      rfl
    have hread := unsignedNumber_append ft neg hi hf he hrest
    rw [hclass] at hread
    rw [printNumber,hform]
    cases neg with
    | true => simpa [parseNumber_neg] using hread
    | false =>
      obtain ⟨c,cs,rfl,hd⟩ := hi.head
      simpa [parseNumber_digit ft hd] using hread

theorem isBlank_digit (hc : c.isDigit = true) : isBlank c = false := by
  have hne : c ≠ ' ' ∧ c ≠ '\n' ∧ c ≠ '\t' ∧ c ≠ '\r' := by
    refine ⟨?_,?_,?_,?_⟩ <;> rintro rfl <;> simp at hc
  simp [isBlank,hne]

theorem print_head (hv : v.FloatsIn ft.readable) :
    ∃ c cs, print ft v = c::cs ∧ isBlank c = false ∧ c ≠ ']' ∧ c ≠ '}' := by
  cases v with
  | null => exact ⟨'n',_,rfl,by decide⟩
  | bool b => cases b <;> exact ⟨_,_,rfl,by decide⟩
  | str s => exact ⟨'"',_,rfl,by decide⟩
  | arr items => cases items <;> exact ⟨'[',_,rfl,by decide⟩
  | obj members => cases members <;> exact ⟨'{',_,rfl,by decide⟩
  | num n =>
    obtain ⟨c,cs,hc,hd⟩ := printNumber_head ft fun f hf => (hv.number f hf).1
    refine ⟨c,cs,hc,?_⟩
    rcases hd with rfl | hd
    · decide
    · refine ⟨isBlank_digit hd,?_,?_⟩ <;> rintro rfl <;> simp at hd

theorem boundary_printItems (xs : List Json) (rest : List Char) :
    Boundary (printItems ft xs++rest) := by
  cases xs <;> exact boundary_cons (by decide)

theorem boundary_printMembers (ms : List (String × Json)) (rest : List Char) :
    Boundary (printMembers ft ms++rest) := by
  cases ms <;> exact boundary_cons (by decide)

/-- The value reads back from its text, given enough fuel and recursion depth. -/
def ReadsBack (v : Json) : Prop :=
  ∀ fuel depth rest, (print ft v).length ≤ fuel → v.nesting < depth → Boundary rest →
    parseValue ft fuel depth (print ft v++rest) = some (v,rest)

theorem parseItems_print (xs : List Json) :
    ∀ (x : Json) (fuel depth : ℕ) (rest : List Char), ReadsBack ft x →
      (∀ y ∈ xs, ReadsBack ft y) → (print ft x++printItems ft xs).length ≤ fuel →
      (∀ y ∈ x::xs, y.nesting < depth) →
      parseItems ft fuel depth (print ft x++(printItems ft xs++rest)) = some (x::xs,rest) := by
  induction xs with
  | nil =>
    intro x fuel depth rest hx _ hfuel hdepth
    simp only [List.length_append,printItems,List.length_singleton] at hfuel
    obtain ⟨fuel,rfl⟩ : ∃ n, fuel = n+1 := ⟨fuel-1,by omega⟩
    have hread := hx fuel depth (printItems ft []++rest) (by omega) (hdepth x (by simp))
      (boundary_printItems ft [] rest)
    rw [parseItems,hread]
    rfl
  | cons y ys ih =>
    intro x fuel depth rest hx hxs hfuel hdepth
    simp only [List.length_append,printItems,List.length_cons] at hfuel
    obtain ⟨fuel,rfl⟩ : ∃ n, fuel = n+1 := ⟨fuel-1,by omega⟩
    have hread := hx fuel depth (printItems ft (y::ys)++rest) (by omega) (hdepth x (by simp))
      (boundary_printItems ft (y::ys) rest)
    have hrest := ih y fuel depth rest (hxs y (by simp))
      (fun z hz => hxs z (by simp [hz])) (by simp; omega) (fun z hz => hdepth z (by simp [hz]))
    rw [parseItems,hread]
    simp only [printItems,List.cons_append,List.append_assoc,
      skipBlank_cons (show isBlank ',' = false from rfl),if_true,hrest,Option.map_some]

theorem parseMembers_print (ms : List (String × Json)) :
    ∀ (k : String) (v : Json) (fuel depth : ℕ) (rest : List Char), ReadsBack ft v →
      (∀ m ∈ ms, ReadsBack ft m.2) →
      (printString k++ ':'::(print ft v++printMembers ft ms)).length ≤ fuel →
      (∀ m ∈ (k,v)::ms, m.2.nesting < depth) →
      parseMembers ft fuel depth (printString k++ ':'::(print ft v++(printMembers ft ms++rest))) =
        some ((k,v)::ms,rest) := by
  induction ms with
  | nil =>
    intro k v fuel depth rest hv _ hfuel hdepth
    simp only [List.length_append,printMembers,List.length_cons] at hfuel
    obtain ⟨fuel,rfl⟩ : ∃ n, fuel = n+1 := ⟨fuel-1,by omega⟩
    have hread := hv fuel depth (printMembers ft []++rest) (by omega) (hdepth (k,v) (by simp))
      (boundary_printMembers ft [] rest)
    simp only [parseMembers,printString,List.cons_append,List.append_assoc,
      skipBlank_cons (show isBlank '"' = false from rfl),if_true,List.nil_append,
      stringBody_append,skipBlank_cons (show isBlank ':' = false from rfl),hread]
    simp [printMembers,skipBlank,isBlank]
  | cons m ms ih =>
    intro k v fuel depth rest hv hms hfuel hdepth
    obtain ⟨l,w⟩ := m
    simp only [List.length_append,printMembers,List.length_cons] at hfuel
    obtain ⟨fuel,rfl⟩ : ∃ n, fuel = n+1 := ⟨fuel-1,by omega⟩
    have hread := hv fuel depth (printMembers ft ((l,w)::ms)++rest) (by omega)
      (hdepth (k,v) (by simp)) (boundary_printMembers ft ((l,w)::ms) rest)
    have hrest := ih l w fuel depth rest (hms (l,w) (by simp))
      (fun z hz => hms z (by simp [hz])) (by simp; omega) (fun z hz => hdepth z (by simp [hz]))
    rw [parseMembers]
    simp only [printString,List.cons_append,List.append_assoc,
      skipBlank_cons (show isBlank '"' = false from rfl),if_true,List.nil_append,
      stringBody_append,skipBlank_cons (show isBlank ':' = false from rfl),hread]
    simp only [printMembers,List.cons_append,List.append_assoc,
      skipBlank_cons (show isBlank ',' = false from rfl),if_true]
    simp [hrest]

theorem readsBack_num {n : Number} (hn : ∀ f, n = .float f → f ∈ ft.readable) :
    ReadsBack ft (.num n) := by
  intro fuel depth rest hfuel _ hrest
  obtain ⟨c,cs,hc,hd⟩ := printNumber_head ft fun f hf => (hn f hf).1
  have hnumber := parseNumber_print ft hn hrest
  simp only [print,hc,List.length_cons] at hfuel
  obtain ⟨fuel,rfl⟩ : ∃ k, fuel = k+1 := ⟨fuel-1,by omega⟩
  have hblank : isBlank c = false := by
    rcases hd with rfl | hd
    · rfl
    · exact isBlank_digit hd
  have hne : c ≠ 'n' ∧ c ≠ 't' ∧ c ≠ 'f' ∧ c ≠ '"' ∧ c ≠ '[' ∧ c ≠ '{' := by
    rcases hd with rfl | hd
    · decide
    · refine ⟨?_,?_,?_,?_,?_,?_⟩ <;> rintro rfl <;> simp at hd
  rw [hc,List.cons_append] at hnumber
  simp only [parseValue,print,hc,List.cons_append,skipBlank_cons hblank,hne.1,hne.2.1,hne.2.2.1,
    hne.2.2.2.1,hne.2.2.2.2.1,hne.2.2.2.2.2,if_false,hnumber,Option.map_some]

theorem readsBack_arr {items : List Json} (hitems : ∀ x ∈ items, x.FloatsIn ft.readable)
    (h : ∀ x ∈ items, ReadsBack ft x) : ReadsBack ft (.arr items) := by
  intro fuel depth rest hfuel hdepth _
  cases items with
  | nil =>
    simp only [Json.nesting] at hdepth
    simp only [print,List.length_cons] at hfuel
    obtain ⟨fuel,rfl⟩ : ∃ k, fuel = k+1 := ⟨fuel-1,by omega⟩
    simp [parseValue,print,skipBlank,isBlank,show ¬ depth ≤ 1 by omega]
  | cons x xs =>
    have hdepths : ∀ y ∈ x::xs, y.nesting < depth-1 := by
      have hle := Json.nestingItems_le.1 (le_refl (Json.nestingItems (x::xs)))
      simp only [Json.nesting] at hdepth
      intro y hy
      have := hle y hy
      omega
    simp only [print,List.length_cons] at hfuel
    obtain ⟨fuel,rfl⟩ : ∃ k, fuel = k+1 := ⟨fuel-1,by omega⟩
    have hparse := parseItems_print ft xs x fuel (depth-1) rest (h x (by simp))
      (fun y hy => h y (by simp [hy])) (by omega) hdepths
    obtain ⟨c,cs,hc,hblank,hclose,_⟩ := print_head ft (hitems x (by simp))
    have hlt : ¬ depth ≤ 1 := by
      have := hdepths x (by simp)
      omega
    rw [hc,List.cons_append] at hparse
    simp only [parseValue,print,List.cons_append,List.append_assoc,hc,
      skipBlank_cons (show isBlank '[' = false from rfl),skipBlank_cons hblank,hclose,hlt,
      if_false,hparse,Option.map_some]
    simp

theorem readsBack_obj {members : List (String × Json)} (h : ∀ m ∈ members, ReadsBack ft m.2) :
    ReadsBack ft (.obj members) := by
  intro fuel depth rest hfuel hdepth _
  cases members with
  | nil =>
    simp only [Json.nesting] at hdepth
    simp only [print,List.length_cons] at hfuel
    obtain ⟨fuel,rfl⟩ : ∃ k, fuel = k+1 := ⟨fuel-1,by omega⟩
    simp [parseValue,print,skipBlank,isBlank,show ¬ depth ≤ 1 by omega]
  | cons m ms =>
    obtain ⟨k,v⟩ := m
    have hdepths : ∀ m ∈ (k,v)::ms, m.2.nesting < depth-1 := by
      have hle := Json.nestingMembers_le.1 (le_refl (Json.nestingMembers ((k,v)::ms)))
      simp only [Json.nesting] at hdepth
      intro y hy
      have := hle y hy
      omega
    simp only [print,List.length_cons] at hfuel
    obtain ⟨fuel,rfl⟩ : ∃ k, fuel = k+1 := ⟨fuel-1,by omega⟩
    have hparse := parseMembers_print ft ms k v fuel (depth-1) rest (h (k,v) (by simp))
      (fun y hy => h y (by simp [hy])) (by omega) hdepths
    have hlt : ¬ depth ≤ 1 := by
      have := hdepths (k,v) (by simp)
      omega
    simp only [printString,List.cons_append,List.append_assoc,List.nil_append] at hparse
    simp only [parseValue,print,printString,List.cons_append,List.append_assoc,List.nil_append,
      skipBlank_cons (show isBlank '{' = false from rfl),
      skipBlank_cons (show isBlank '"' = false from rfl),hlt,if_false,hparse,Option.map_some]
    simp

/-- A value reads back from its text, at every depth, if its floats do. -/
theorem readsBack (hv : v.FloatsIn ft.readable) : ReadsBack ft v := by
  induction hv with
  | null =>
    rintro (_ | fuel) depth rest hfuel _ _
    · simp [print] at hfuel
    · simp [parseValue,print,skipBlank,isBlank,keyword]
  | bool b =>
    rintro (_ | fuel) depth rest hfuel _ _
    · cases b <;> simp [print] at hfuel
    · cases b <;> simp [parseValue,print,skipBlank,isBlank,keyword]
  | str s =>
    rintro (_ | fuel) depth rest hfuel _ _
    · simp [print,printString] at hfuel
    · simp [parseValue,print,printString,skipBlank,isBlank,stringBody_append]
  | num h => exact readsBack_num ft h
  | arr h ih => exact readsBack_arr ft h ih
  | obj _ ih => exact readsBack_obj ft ih

/-- Parsing inverts printing on values nested less deeply than the recursion limit. -/
theorem parse_print (hv : v.FloatsIn ft.readable) {limit : ℕ} (h : v.nesting < limit) :
    parse ft limit (print ft v) = some v := by
  have hread := readsBack ft hv ((print ft v).length+1) limit [] (by omega) h boundary_nil
  rw [List.append_nil] at hread
  simp [parse,hread,skipBlank]

theorem print_injective_of_readable {w : Json} (hv : v.FloatsIn ft.readable)
    (hw : w.FloatsIn ft.readable) (h : print ft v = print ft w) : v = w := by
  have hv := parse_print ft hv (Nat.lt_succ_of_le (le_max_left v.nesting w.nesting))
  have hw := parse_print ft hw (Nat.lt_succ_of_le (le_max_right v.nesting w.nesting))
  rw [h,hw] at hv
  exact (Option.some.inj hv).symm

theorem printItems_congr {ft' : FloatText} {xs : List Json}
    (h : ∀ x ∈ xs, print ft x = print ft' x) : printItems ft xs = printItems ft' xs := by
  induction xs with
  | nil => rfl
  | cons x xs ih =>
    obtain ⟨hx,hxs⟩ := List.forall_mem_cons.1 h
    rw [printItems,printItems,hx,ih hxs]

theorem printMembers_congr {ft' : FloatText} {ms : List (String × Json)}
    (h : ∀ m ∈ ms, print ft m.2 = print ft' m.2) : printMembers ft ms = printMembers ft' ms := by
  induction ms with
  | nil => rfl
  | cons m ms ih =>
    obtain ⟨hm,hms⟩ := List.forall_mem_cons.1 h
    rw [printMembers,printMembers,hm,ih hms]

theorem print_congr {ft' : FloatText} (h : ft.format = ft'.format) (v : Json) :
    print ft v = print ft' v := by
  induction v using Json.induction with
  | null => rfl
  | bool b => cases b <;> rfl
  | num n => cases n <;> simp [print,printNumber,h]
  | str s => rfl
  | arr items ih =>
    cases items with
    | nil => rfl
    | cons x xs =>
      obtain ⟨hx,hxs⟩ := List.forall_mem_cons.1 ih
      rw [print,print,hx,printItems_congr ft hxs]
  | obj members ih =>
    cases members with
    | nil => rfl
    | cons m ms =>
      obtain ⟨hm,hms⟩ := List.forall_mem_cons.1 ih
      rw [print,print,hm,printMembers_congr ft hms]

/-- Printing is injective although reading is not exact: with a reader that inverts the writer of
floats every value would read back. -/
theorem print_injective (hft : ft.Lawful) {w : Json} (h : print ft v = print ft w) : v = w := by
  have hprint : ∀ u, print {ft with parse := Function.partialInv ft.format} u = print ft u :=
    print_congr _ rfl
  have hreadable : ∀ u : Json,
      u.FloatsIn (FloatText.readable {ft with parse := Function.partialInv ft.format}) :=
    fun u => (Json.floatsIn_univ u).mono fun f _ =>
      ⟨hft.token f,Function.partialInv_left hft.format_injective f⟩
  rw [← hprint,← hprint] at h
  exact print_injective_of_readable _ (hreadable v) (hreadable w) h

theorem keyword_eq_some {text : List Char} {input : List Char} {w : Json}
    (h : keyword text v input = some (w,rest)) : w = v := by
  unfold keyword at h
  split at h <;> simp_all

mutual
theorem parseValue_nesting {fuel depth : ℕ} (hdepth : 0 < depth) {input : List Char} {v : Json}
    {rest : List Char} (h : parseValue ft fuel depth input = some (v,rest)) :
    v.nesting < depth := by
  cases fuel with
  | zero => simp [parseValue] at h
  | succ fuel =>
    unfold parseValue at h
    split at h
    · simp at h
    split at h
    · rw [keyword_eq_some h]; exact hdepth
    split at h
    · rw [keyword_eq_some h]; exact hdepth
    split at h
    · rw [keyword_eq_some h]; exact hdepth
    split at h
    · obtain ⟨p,-,hp⟩ := Option.map_eq_some_iff.1 h
      cases hp
      exact hdepth
    split at h
    · split at h
      · simp at h
      split at h
      · simp at h
      split at h
      · cases h
        simp only [Json.nesting,Json.nestingItems]
        omega
      · obtain ⟨⟨items,more⟩,hitems,hp⟩ := Option.map_eq_some_iff.1 h
        cases hp
        have hle := Json.nestingItems_le.2 fun x hx =>
          Nat.le_sub_one_of_lt (parseItems_nesting (by omega) hitems x hx)
        simp only [Json.nesting]
        omega
    split at h
    · split at h
      · simp at h
      split at h
      · simp at h
      split at h
      · cases h
        simp only [Json.nesting,Json.nestingMembers]
        omega
      · obtain ⟨⟨members,more⟩,hmembers,hp⟩ := Option.map_eq_some_iff.1 h
        cases hp
        have hle := Json.nestingMembers_le.2 fun m hm =>
          Nat.le_sub_one_of_lt (parseMembers_nesting (by omega) hmembers m hm)
        simp only [Json.nesting]
        omega
    · obtain ⟨p,-,hp⟩ := Option.map_eq_some_iff.1 h
      cases hp
      exact hdepth
theorem parseItems_nesting {fuel depth : ℕ} (hdepth : 0 < depth) {input : List Char}
    {items : List Json} {rest : List Char}
    (h : parseItems ft fuel depth input = some (items,rest)) :
    ∀ x ∈ items, x.nesting < depth := by
  cases fuel with
  | zero => simp [parseItems] at h
  | succ fuel =>
    unfold parseItems at h
    split at h
    · simp at h
    rename_i x _ hx
    have hhead := parseValue_nesting hdepth hx
    split at h
    · simp at h
    split at h
    · obtain ⟨⟨xs,more⟩,hxs,hp⟩ := Option.map_eq_some_iff.1 h
      cases hp
      exact List.forall_mem_cons.2 ⟨hhead,parseItems_nesting hdepth hxs⟩
    split at h
    · cases h
      simpa using hhead
    · simp at h
theorem parseMembers_nesting {fuel depth : ℕ} (hdepth : 0 < depth) {input : List Char}
    {members : List (String × Json)} {rest : List Char}
    (h : parseMembers ft fuel depth input = some (members,rest)) :
    ∀ m ∈ members, m.2.nesting < depth := by
  cases fuel with
  | zero => simp [parseMembers] at h
  | succ fuel =>
    unfold parseMembers at h
    split at h
    · simp at h
    split at h
    · split at h
      · simp at h
      split at h
      · simp at h
      split at h
      · split at h
        · simp at h
        rename_i v _ hv
        have hhead := parseValue_nesting hdepth hv
        split at h
        · simp at h
        split at h
        · obtain ⟨⟨ms,more⟩,hms,hp⟩ := Option.map_eq_some_iff.1 h
          cases hp
          exact List.forall_mem_cons.2 ⟨hhead,parseMembers_nesting hdepth hms⟩
        split at h
        · cases h
          simpa using hhead
        · simp at h
      · simp at h
    · simp at h
end

theorem parse_nesting {limit : ℕ} (hlimit : 0 < limit) {input : List Char}
    (h : parse ft limit input = some v) : v.nesting < limit := by
  unfold parse at h
  split at h
  · rename_i w rest hw
    split at h
    · cases h
      exact parseValue_nesting ft hlimit hw
    · simp at h
  · simp at h

/-- Floats written as their bit pattern: a text that satisfies the laws. -/
def FloatText.bitPattern : FloatText where
  format f := Nat.toDigits 10 f.1.toNat++['.','0']
  parse text :=
    let bits := UInt64.ofNat (Nat.ofDigitChars 10 (text.dropLast.dropLast) 0)
    if h : FiniteBits bits then some ⟨bits,h⟩ else none

theorem FloatText.bitPattern_parse_format (f : FiniteF64) :
    FloatText.bitPattern.parse (FloatText.bitPattern.format f) = some f := by
  have hdrop : (Nat.toDigits 10 f.1.toNat++['.','0']).dropLast.dropLast =
      Nat.toDigits 10 f.1.toNat := by
    simp [List.dropLast_append_of_ne_nil]
  simp only [bitPattern,hdrop,Nat.ofDigitChars_ten_toDigits,UInt64.ofNat_toNat]
  exact dif_pos f.2

theorem FloatText.bitPattern_lawful : FloatText.bitPattern.Lawful where
  token f := ⟨false,Nat.toDigits 10 f.1.toNat,['.','0'],[],by simp [bitPattern],
    intShape_toDigits _,Or.inr ⟨['0'],rfl,by simp,by simp⟩,Or.inl rfl,Or.inl (by simp)⟩
  format_injective := by
    intro f g h
    have hf := bitPattern_parse_format f
    rw [h,bitPattern_parse_format g] at hf
    exact (Option.some.inj hf).symm

theorem FloatText.floatsIn_bitPattern (v : Json) : v.FloatsIn FloatText.bitPattern.readable :=
  (Json.floatsIn_univ v).mono fun f _ => ⟨bitPattern_lawful.token f,bitPattern_parse_format f⟩

end JsonText
end CommitCiPreflight
