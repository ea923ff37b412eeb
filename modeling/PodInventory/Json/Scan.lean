import PodInventory.Json.Cursor

namespace PodInventory.Scan

open Text

/-- What one token gives to a strict reader, and where a reader goes on that only skips it. -/
structure Token (α : Type) where
  value : Except Fault α
  rest : Except Fault Cursor

def Token.fail {α : Type} (strict lenient : Fault) : Token α := ⟨.error strict, .error lenient⟩

/-- The letters of a word after its first one. -/
def word (letters : List Char) (c : Cursor) : Except Fault Cursor :=
  match letters with
  | [] => .ok c
  | x :: more =>
    match c.rest with
    | [] => .error (c.here .endInValue)
    | y :: _ => if x = y then word more c.next else .error (c.ahead .expectedWord)

def hexUnit (c : Cursor) : Except Fault (Nat × Cursor) :=
  let bytes := (c.rest.take 4).foldl (fun n x ↦ n + x.utf8Size) 0
  if bytes < 4 then
    .error ⟨.endInText, some (Cursor.placeAfter bytes c.place c.rest)⟩
  else
    match c.rest with
    | w :: x :: y :: z :: rest =>
      match hexDigit? w, hexDigit? x, hexDigit? y, hexDigit? z with
      | some w, some x, some y, some z => .ok (ofDigits 16 [w, x, y, z], c.forward 4 rest)
      | _, _, _, _ => .error ⟨.badEscape, some (Cursor.placeAfter 4 c.place c.rest)⟩
    | _ => .error ⟨.badEscape, some (Cursor.placeAfter 4 c.place c.rest)⟩

def shortEscape? (c : Char) : Option Char :=
  if c = '"' then some '"'
  else if c = '\\' then some '\\'
  else if c = '/' then some '/'
  else if c = 'b' then some '\x08'
  else if c = 'f' then some '\x0c'
  else if c = 'n' then some '\n'
  else if c = 'r' then some '\r'
  else if c = 't' then some '\t'
  else none

/-- The second half of a surrogate pair, with the fault of a strict reader where it is missing. -/
def lowHalf (high : Nat) (c : Cursor) : Token Char :=
  match c.rest with
  | [] => .fail (c.here .endInText) (c.here .endInText)
  | '\\' :: _ =>
    match c.next.rest with
    | [] => .fail (c.next.here .endInText) (c.next.here .endInText)
    | 'u' :: _ =>
      match hexUnit c.next.next with
      | .error f => .fail f f
      | .ok (low, rest) =>
        if low < 0xdc00 ∨ 0xdfff < low then ⟨.error (rest.here .loneSurrogate), .ok rest⟩
        else ⟨.ok (Char.ofNat ((high - 0xd800) * 0x400 + (low - 0xdc00) + 0x10000)), .ok rest⟩
    | _ => ⟨.error (c.next.ahead .unfinishedSurrogate), .ok c⟩
  | _ => ⟨.error (c.ahead .unfinishedSurrogate), .ok c⟩

/-- One escape, read from behind its backslash. -/
def escape (c : Cursor) : Token Char :=
  match c.rest with
  | [] => .fail (c.here .endInText) (c.here .endInText)
  | x :: _ =>
    if x = 'u' then
      match hexUnit c.next with
      | .error f => .fail f f
      | .ok (unit, rest) =>
        if 0xdc00 ≤ unit ∧ unit ≤ 0xdfff then ⟨.error (rest.here .loneSurrogate), .ok rest⟩
        else if 0xd800 ≤ unit ∧ unit ≤ 0xdbff then lowHalf unit rest
        else ⟨.ok (Char.ofNat unit), .ok rest⟩
    else
      match shortEscape? x with
      | some y => ⟨.ok y, .ok c.next⟩
      | none => .fail (c.ahead .badEscape) (c.ahead .badEscape)

/-- Adds a character unless the reading has failed before. -/
def push (read : Except Fault (List Char)) (char : Except Fault Char) : Except Fault (List Char) :=
  match read, char with
  | .ok cs, .ok c => .ok (c :: cs)
  | .ok _, .error f => .error f
  | .error f, _ => .error f

/-- The rest of a text behind its opening quote. What was read before comes in reverse. -/
def text : Nat → Except Fault (List Char) → Cursor → Token String
  | 0, _, c => .fail (c.here .endInText) (c.here .endInText)
  | fuel + 1, read, c =>
    let stop (strict lenient : Fault) : Token String :=
      match read with
      | .ok _ => .fail strict lenient
      | .error f => .fail f lenient
    match c.rest with
    | [] => stop (c.here .endInText) (c.here .endInText)
    | '"' :: _ => ⟨read.map (fun cs ↦ .ofList cs.reverse), .ok c.next⟩
    | '\\' :: _ =>
      let token := escape c.next
      match token.rest with
      | .error f => stop (match token.value with | .error g => g | .ok _ => f) f
      | .ok rest => text fuel (push read token.value) rest
    | x :: _ =>
      if x.toNat < 0x20 then stop (c.next.here .controlCharacter) (c.here .controlCharacter)
      else text fuel (push read (.ok x)) c.next

/-- The digits of a significand as long as it stays below `2 ^ 64`, with the count of the rest. -/
def absorb (significand : Nat) : List Nat → Nat × Nat
  | [] => (significand, 0)
  | d :: digits =>
    if UInt64.size ≤ significand * 10 + d then (significand, digits.length + 1)
    else absorb (significand * 10 + d) digits

/-- An exponent below `2 ^ 31`, or how many digits are read when it turns out to be larger. -/
def boundedExponent (read value : Nat) : List Nat → Nat ⊕ Nat
  | [] => .inl value
  | d :: digits =>
    if 0x80000000 ≤ value * 10 + d then .inr (read + 1)
    else boundedExponent (read + 1) (value * 10 + d) digits

/-- The parts of a number. -/
structure Parts where
  negative : Bool
  whole : List Nat
  fraction : List Nat
  /-- The sign of the exponent, its digits and the place before them. -/
  exponent : Option (Bool × List Nat × Cursor)
  stop : Cursor

def Parts.value (p : Parts) : Except Fault Number :=
  let (significand, dropped) := absorb 0 p.whole
  let (significand, ignored) := absorb significand p.fraction
  let power : Int := dropped - (p.fraction.length - ignored : Nat)
  let scaled (power : Int) : Except Fault Number :=
    match Binary64.ofDecimal p.negative significand power with
    | some x => .ok (.float x)
    | none => .error (p.stop.here .numberOutOfRange)
  match p.exponent with
  | none =>
    if dropped = 0 ∧ p.fraction = [] then
      if !p.negative then .ok (.integer significand)
      else if 0 < significand ∧ significand ≤ 0x8000000000000000 then .ok (.integer (-significand))
      else scaled 0
    else scaled power
  | some (downward, digits, before) =>
    match boundedExponent 0 0 digits with
    | .inl e => scaled (if downward then power - e else power + e)
    | .inr read =>
      if significand ≠ 0 ∧ !downward then
        .error ⟨.numberOutOfRange, some ⟨before.place.line, before.place.column + read⟩⟩
      else .ok (.float (.zero p.negative))

def finish (p : Parts) : Token Number := ⟨p.value, .ok p.stop⟩

def exponentPart (p : Parts) : Token Number :=
  match p.stop.rest with
  | x :: _ =>
    if x = 'e' ∨ x = 'E' then
      let c := p.stop.next
      let (downward, c) :=
        match c.rest with
        | '+' :: _ => (false, c.next)
        | '-' :: _ => (true, c.next)
        | _ => (false, c)
      match c.rest, takeDigits digit? c.rest with
      | [], _ => .fail (c.here .endInValue) (c.here .badNumber)
      | _, ([], _) => .fail (c.ahead .badNumber) (c.ahead .badNumber)
      | _, (digits, rest) =>
        finish { p with
          exponent := some (downward, digits, c)
          stop := c.forward digits.length rest }
    else finish p
  | [] => finish p

def fractionPart (p : Parts) : Token Number :=
  match p.stop.rest with
  | '.' :: _ =>
    let c := p.stop.next
    match c.rest, takeDigits digit? c.rest with
    | [], _ => .fail (c.here .endInValue) (c.here .badNumber)
    | _, ([], _) => .fail (c.ahead .badNumber) (c.ahead .badNumber)
    | _, (digits, rest) =>
      exponentPart { p with fraction := digits, stop := c.forward digits.length rest }
  | _ => exponentPart p

/-- A number behind its sign. -/
def unsigned (negative : Bool) (c : Cursor) : Token Number :=
  match c.rest, takeDigits digit? c.rest with
  | [], _ => .fail (c.here .endInValue) (c.here .badNumber)
  | _, ([], _) => .fail (c.ahead .badNumber) (c.ahead .badNumber)
  | _, (0 :: _ :: _, _) => .fail (c.next.ahead .badNumber) (c.next.ahead .badNumber)
  | _, (digits, rest) => fractionPart ⟨negative, digits, [], none, c.forward digits.length rest⟩

def number (c : Cursor) : Token Number :=
  match c.rest with
  | '-' :: _ => unsigned true c.next
  | _ => unsigned false c

end PodInventory.Scan
