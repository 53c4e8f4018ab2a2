import SchwabGateway.Json.Encoder
import SchwabGateway.Library.Dictionary

set_option autoImplicit false

namespace SchwabGateway.Json

open SchwabGateway.Python SchwabGateway.Library

inductive ScanError where
  | invalid
  | recursionError
deriving DecidableEq

def isContinuation (byte : UInt8) : Bool := 0x80 ≤ byte.toNat && byte.toNat ≤ 0xBF

def carried (lead : Nat) (bytes : List UInt8) : Nat :=
  bytes.foldl (fun value byte => value * 64 + (byte.toNat - 0x80)) lead

def prependPoint (value : Nat) (decoded : Option Text) : Option Text :=
  decoded.map (Fin.ofNat 0x110000 value :: ·)

-- UTF-8, with nothing that is longer than it need be and no surrogates.
def decodeUtf8 : List UInt8 → Option Text
  | [] => some []
  | a :: rest =>
      if a.toNat < 0x80 then prependPoint a.toNat (decodeUtf8 rest)
      else
        match rest with
        | [] => none
        | b :: rest =>
            if 0xC2 ≤ a.toNat ∧ a.toNat ≤ 0xDF ∧ isContinuation b then
              prependPoint (carried (a.toNat - 0xC0) [b]) (decodeUtf8 rest)
            else
              match rest with
              | [] => none
              | c :: rest =>
                  if 0xE0 ≤ a.toNat ∧ a.toNat ≤ 0xEF ∧ isContinuation b ∧ isContinuation c ∧
                      0x800 ≤ carried (a.toNat - 0xE0) [b, c] ∧
                      ¬ (0xD800 ≤ carried (a.toNat - 0xE0) [b, c] ∧ carried (a.toNat - 0xE0) [b, c] ≤ 0xDFFF) then
                    prependPoint (carried (a.toNat - 0xE0) [b, c]) (decodeUtf8 rest)
                  else
                    match rest with
                    | [] => none
                    | d :: rest =>
                        if 0xF0 ≤ a.toNat ∧ a.toNat ≤ 0xF4 ∧ isContinuation b ∧ isContinuation c ∧
                            isContinuation d ∧ 0x10000 ≤ carried (a.toNat - 0xF0) [b, c, d] ∧
                            carried (a.toNat - 0xF0) [b, c, d] ≤ 0x10FFFF then
                          prependPoint (carried (a.toNat - 0xF0) [b, c, d]) (decodeUtf8 rest)
                        else none

def encodeAscii (text : Text) : List UInt8 := text.map (fun character => UInt8.ofNat character.val)

def isBlank (character : CodePoint) : Bool :=
  character = 0x20 || character = 0x09 || character = 0x0A || character = 0x0D

def skipBlanks (text : Text) : Text := text.dropWhile isBlank

def words : List (Text × Scalar) :=
  [(asciiText "null", .none), (asciiText "true", .bool true), (asciiText "false", .bool false)]

def scanWord (text : Text) : Option (Scalar × Text) :=
  (words.find? (fun row => row.1.isPrefixOf text)).map (fun row => (row.2, text.drop row.1.length))

section Code

variable (floats : Floats)

-- What the scanner makes of a number. int does not read more digits than the
-- limit.
def readNumber : NumberText → Except ScanError Scalar
  | .int negative digits =>
      if digits.length > digitLimit then .error .invalid
      else .ok (.int (if negative then -(numeral digits : Int) else numeral digits))
  | .float text => .ok (.float (floats.value text))

-- The constants NaN, Infinity and -Infinity are refused like anything else
-- that is none of these.
def scanScalar (text : Text) : Except ScanError (Scalar × Text) :=
  match text with
  | [] => .error .invalid
  | first :: rest =>
      if first = quote then
        match scanString rest with
        | some (string, after) => .ok (.str string, after)
        | none => .error .invalid
      else
        match scanWord text, scanNumber text with
        | some found, _ => .ok found
        | none, some (number, after) => (readNumber floats number).map (fun value => (value, after))
        | none, none => .error .invalid

variable {α : Type} (close : CodePoint) (scan : Text → Except ScanError (α × Text))

-- What is between the commas, up to the bracket that closes the whole. Each
-- part takes a character, so that the length of the text is fuel enough.
def scanSeries : Nat → Text → Except ScanError (List α × Text)
  | 0, _ => .error .invalid
  | fuel + 1, text => do
      let (item, after) ← scan text
      match skipBlanks after with
      | [] => .error .invalid
      | next :: rest =>
          if next = close then .ok ([item], rest)
          else if next = comma then do
            let (items, after) ← scanSeries fuel (skipBlanks rest)
            .ok (item :: items, after)
          else .error .invalid

def scanContainer (text : Text) : Except ScanError (List α × Text) :=
  match skipBlanks text with
  | [] => .error .invalid
  | first :: rest =>
      if first = close then .ok ([], rest) else scanSeries close scan (first :: rest).length (first :: rest)

def scanPair (text : Text) : Except ScanError ((Text × α) × Text) :=
  match text with
  | [] => .error .invalid
  | first :: rest =>
      if first = quote then
        match scanString rest with
        | none => .error .invalid
        | some (name, after) =>
            match skipBlanks after with
            | [] => .error .invalid
            | next :: rest =>
                if next = colon then do
                  let (value, after) ← scan (skipBlanks rest)
                  .ok ((name, value), after)
                else .error .invalid
      else .error .invalid

end Code

def dictOf (pairs : List (Text × Value)) : Value :=
  .dict ((OrderedMap.ofPairs pairs).entries.map (fun pair => (.str pair.1, pair.2)))

-- scan_once, with how many containers it may still go into.
def scanOnce (floats : Floats) : Nat → Text → Except ScanError (Value × Text)
  | _, [] => .error .invalid
  | depth, first :: rest =>
      if first = openBracket then
        match depth with
        | 0 => .error .recursionError
        | depth + 1 =>
            (scanContainer closeBracket (scanOnce floats depth) rest).map (fun scanned =>
              (.sequence .list scanned.1, scanned.2))
      else if first = openBrace then
        match depth with
        | 0 => .error .recursionError
        | depth + 1 =>
            (scanContainer closeBrace (scanPair (scanOnce floats depth)) rest).map (fun scanned =>
              (dictOf scanned.1, scanned.2))
      else (scanScalar floats (first :: rest)).map (fun scanned => (.scalar scanned.1, scanned.2))

def byteOrderMark : CodePoint := 0xFEFF

def load (floats : Floats) (depth : Nat) (content : List UInt8) : Except ScanError Value :=
  match decodeUtf8 content with
  | none => .error .invalid
  | some text =>
      if text.head? = some byteOrderMark then .error .invalid
      else do
        let (value, after) ← scanOnce floats depth (skipBlanks text)
        if skipBlanks after = [] then .ok value else .error .invalid

end SchwabGateway.Json
