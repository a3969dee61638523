import StreamReplay.Foundation.Decimal
import StreamReplay.Foundation.Search
import StreamReplay.Tx.Schedule

/-!
# The MAC queue parser

`update_queue_info` of `tx/src/statistic/mac_queue.rs` scans the lines of the driver's
report for two markers and the numbers behind them.  A text is given by its bytes: the
markers are ASCII, so a search for them finds the same positions as one by characters,
and every slice starts at the end of a match.
-/

namespace StreamReplay

open Checked Decimal Search

/-- The bytes of a literal. -/
def ascii (text : String) : List UInt8 := text.toUTF8.data.toList

/-- `str::lines`, with what was read of the current line: a newline or a carriage return
with a newline ends a line, and the last line needs neither. -/
def linesFrom (current : List UInt8) : List UInt8 → List (List UInt8)
  | [] => if current = [] then [] else [current]
  | byte :: rest =>
      if byte = 10 then
        (if current.getLast? = some 13 then current.dropLast else current) ::
          linesFrom [] rest
      else linesFrom (current ++ [byte]) rest

def lines (data : List UInt8) : List (List UInt8) := linesFrom [] data

/-- `usize::checked_mul` -/
def checkedMul (left right : Nat) : Option Nat :=
  if left * right < 2 ^ 64 then some (left * right) else none

/-- `usize::checked_add` -/
def checkedAdd (left right : Nat) : Option Nat :=
  if left + right < 2 ^ 64 then some (left + right) else none

/-- The loop of `parse_digits`. -/
def scanDigits (num : Nat) (found : Bool) : List UInt8 → Option Nat
  | [] => if found then some num else none
  | byte :: rest =>
      if isDigit byte then
        (checkedMul num 10).bind fun num =>
          (checkedAdd num (digit byte)).bind fun num => scanDigits num true rest
      else if found then some num else none

def parseDigits (line : List UInt8) (start : Nat) : Option Nat :=
  scanDigits 0 false (line.drop start)

namespace MACQueueQuery

def beaconMark : List UInt8 := ascii "BCN"

def pktNumMark : List UInt8 := ascii "pkt_num:"

def acMark : List UInt8 := ascii "ac:"

/-- The key of an access category; what does not fit a `u8` counts as 0. -/
def acKey (acVal : Nat) : UInt8 := if acVal > 255 then 0 else UInt8.ofNat acVal

/-- One turn of the loop over the lines. -/
def scanLine (queueInfo : MACQueueInfo) (line : List UInt8) : Except Panic MACQueueInfo :=
  if (find beaconMark line).isSome then .ok queueInfo
  else
    match find pktNumMark line with
    | none => .ok queueInfo
    | some pPos => do
        let afterPkt ← slice line (pPos + 8) line.length
        match find acMark afterPkt with
        | none => return queueInfo
        | some aPos =>
            let aAbs := pPos + 8 + aPos
            match parseDigits line (pPos + 8), parseDigits line (aAbs + 3) with
            | some pktNum, some acVal =>
                let total ← add 64 ((queueInfo.lookup (acKey acVal)).getD 0) pktNum
                return queueInfo.insert (acKey acVal) total
            | _, _ => return queueInfo

end MACQueueQuery

/-- The queues of one device. -/
structure MACQueueQuery where
  queueInfo : MACQueueInfo

/-- `data` is what was read of the driver's file, if it could be read. -/
def MACQueueQuery.updateQueueInfo (query : MACQueueQuery) (data : Option (List UInt8)) :
    Except Panic MACQueueQuery :=
  match data with
  | none => .ok query
  | some data => do
      let queueInfo ← (lines data).foldlM scanLine ∅
      return { query with queueInfo }

/-! ## Scanning digits -/

/-- The digits up to the first byte that is none are read, if their number fits. -/
theorem scanDigits_eq {digits rest : List UInt8} {num : Nat} {found : Bool}
    (all : ∀ byte ∈ digits, isDigit byte = true)
    (ended : ∀ byte, rest.head? = some byte → isDigit byte = false)
    (some_digit : found = true ∨ digits ≠ []) (fits : continued num digits < 2 ^ 64) :
    scanDigits num found (digits ++ rest) = some (continued num digits) := by
  induction digits generalizing num found with
  | nil =>
      have read : found = true := some_digit.resolve_right fun nonempty => nonempty rfl
      subst read
      cases rest with
      | nil => rfl
      | cons byte rest =>
          have other : ¬isDigit byte = true := by simp [ended byte rfl]
          rw [List.nil_append, scanDigits, if_neg other, if_pos rfl]
          rfl
  | cons byte digits ih =>
      have isOne : isDigit byte = true := all byte List.mem_cons_self
      rw [continued_cons] at fits
      have sum : num * 10 + digit byte < 2 ^ 64 :=
        (le_continued _ digits).trans_lt fits
      have product : num * 10 < 2 ^ 64 := (Nat.le_add_right _ _).trans_lt sum
      rw [List.cons_append, scanDigits, if_pos isOne, checkedMul, if_pos product,
        Option.bind_some, checkedAdd, if_pos sum, Option.bind_some]
      exact ih (fun other member => all other (List.mem_cons_of_mem _ member)) (.inl rfl) fits

/-- A numeral behind `before` is read from there. -/
theorem parseDigits_eq (before : List UInt8) (numeral : Numeral) {rest : List UInt8}
    (ended : ∀ byte, rest.head? = some byte → isDigit byte = false)
    (fits : numeral.value < 2 ^ 64) :
    parseDigits (before ++ (numeral.bytes ++ rest)) before.length = some numeral.value := by
  rw [parseDigits, List.drop_left]
  exact scanDigits_eq numeral.digits ended (.inr numeral.nonempty) fits

end StreamReplay
