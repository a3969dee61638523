import StreamReplay.Foundation.Tally
import StreamReplay.Tx.MacQueue

/-!
# The format of the driver's queue report

Each line reports the packets that one queue holds for an access category, or is a
beacon's and is passed over.  On a text of such lines the parser adds up the packets
by access category.
-/

namespace StreamReplay

open Checked Decimal Search Tally

namespace MACQueueQuery

def comma : UInt8 := 44

/-- The text of a field that is no number. -/
structure Field where
  bytes : List UInt8
  nonempty : bytes ≠ []
  no_comma : comma ∉ bytes
  no_marker : ¬pktNumMark <:+: bytes
  no_beacon : ¬beaconMark <:+: bytes

/-- The fields of the line of one queue, and what follows the last one. -/
structure Report where
  head : Field
  tail : Field
  pktNum : Numeral
  macid : Numeral
  ac : Numeral
  rest : List UInt8
  pktNum_lt : pktNum.value < 2 ^ 64
  ac_lt : ac.value < 2 ^ 64
  ended : ∀ byte, rest.head? = some byte → isDigit byte = false
  no_beacon : ¬beaconMark <:+: rest

namespace Report

/-- `head:H, tail:T, pkt_num:P, macid:M, ac:A`, and the rest of the line -/
def text (report : Report) : List UInt8 :=
  ascii "head:" ++ report.head.bytes ++ ascii ", tail:" ++ report.tail.bytes ++
    ascii ", pkt_num:" ++ report.pktNum.bytes ++ ascii ", macid:" ++ report.macid.bytes ++
    ascii ", ac:" ++ report.ac.bytes ++ report.rest

/-- The access category and the number of packets. -/
def entry (report : Report) : UInt8 × Nat := (acKey report.ac.value, report.pktNum.value)

/-! ## Where the markers are -/

/-- What stands before the first marker. -/
def beforePkt (report : Report) : List UInt8 :=
  ascii "head:" ++ (report.head.bytes ++ (ascii ", tail:" ++ (report.tail.bytes ++ ascii ", ")))

/-- What stands between the markers. -/
def beforeAc (report : Report) : List UInt8 :=
  report.pktNum.bytes ++ (ascii ", macid:" ++ (report.macid.bytes ++ ascii ", "))

/-- What stands behind the first marker. -/
def afterPkt (report : Report) : List UInt8 :=
  report.beforeAc ++ (acMark ++ (report.ac.bytes ++ report.rest))

theorem text_eq (report : Report) :
    report.text = report.beforePkt ++ (pktNumMark ++ report.afterPkt) := by
  have pktMark : ascii ", pkt_num:" = ascii ", " ++ pktNumMark := by decide
  have acMarked : ascii ", ac:" = ascii ", " ++ acMark := by decide
  rw [text, beforePkt, afterPkt, beforeAc, pktMark, acMarked]
  simp only [List.append_assoc]

theorem find_pktNum (report : Report) :
    find pktNumMark report.text = some report.beforePkt.length := by
  have starting : pktNumMark.head? = some 112 := by decide
  have free : comma ∉ pktNumMark := by decide
  rw [text_eq, beforePkt]
  simp only [List.append_assoc]
  rw [find_append_of_not_mem starting (by decide),
    find_append_separator rfl free report.head.no_marker,
    find_append_of_not_mem starting (by decide),
    find_append_separator rfl free report.tail.no_marker,
    find_append_of_not_mem starting (by decide),
    find_of_prefix (List.prefix_append _ _)]
  simp [Nat.add_comm]

theorem head_acMark : acMark.head? = some 97 := by decide

/-- The letters of `ac` in `macid` are not followed by a colon. -/
theorem find_ac_macid (rest : List UInt8) :
    find acMark (ascii ", macid:" ++ rest) = (find acMark rest).map (· + 8) := by
  have split : ascii ", macid:" = ascii ", m" ++ 97 :: ascii "cid:" := by decide
  have mark : acMark = [97, 99, 58] := by decide
  have letters : ascii "cid:" = [99, 105, 100, 58] := by decide
  have later : ¬acMark <+: 97 :: (ascii "cid:" ++ rest) := by
    rw [mark, letters]
    simp [List.cons_prefix_cons]
  rw [split, List.append_assoc, List.cons_append,
    find_append_of_not_mem head_acMark (by decide), find_cons later,
    find_append_of_not_mem head_acMark (by decide), Option.map_map, Option.map_map]
  rfl

theorem find_ac (report : Report) :
    find acMark report.afterPkt = some report.beforeAc.length := by
  rw [afterPkt, beforeAc]
  simp only [List.append_assoc]
  rw [find_append_of_not_mem head_acMark (report.pktNum.not_mem (by decide)), find_ac_macid,
    find_append_of_not_mem head_acMark (report.macid.not_mem (by decide)),
    find_append_of_not_mem head_acMark (by decide), find_of_prefix (List.prefix_append _ _)]
  have macidLength : (ascii ", macid:").length = 8 := by decide
  simp only [Option.map_some, List.length_append, macidLength, Option.some.injEq]
  omega

theorem find_beacon (report : Report) : find beaconMark report.text = none := by
  have starting : beaconMark.head? = some 66 := by decide
  have free : comma ∉ beaconMark := by decide
  rw [text]
  simp only [List.append_assoc]
  rw [find_append_of_not_mem starting (by decide),
    find_append_separator rfl free report.head.no_beacon,
    find_append_of_not_mem starting (by decide),
    find_append_separator rfl free report.tail.no_beacon,
    find_append_of_not_mem starting (by decide),
    find_append_of_not_mem starting (report.pktNum.not_mem (by decide)),
    find_append_of_not_mem starting (by decide),
    find_append_of_not_mem starting (report.macid.not_mem (by decide)),
    find_append_of_not_mem starting (by decide),
    find_append_of_not_mem starting (report.ac.not_mem (by decide)),
    find_eq_none_iff.mpr report.no_beacon]
  rfl

end Report

/-! ## Reading one line -/

theorem scanLine_beacon {queueInfo : MACQueueInfo} {line : List UInt8}
    (marked : beaconMark <:+: line) : scanLine queueInfo line = .ok queueInfo := by
  have found : find beaconMark line ≠ none := by simpa [find_eq_none_iff] using marked
  rw [scanLine, if_pos (Option.isSome_iff_ne_none.mpr found)]

/-- The text up to the end of the first marker. -/
theorem length_marked (report : Report) :
    (report.beforePkt ++ pktNumMark).length = report.beforePkt.length + 8 := by
  have markLength : pktNumMark.length = 8 := by decide
  rw [List.length_append, markLength]

theorem slice_afterPkt (report : Report) :
    slice report.text (report.beforePkt.length + 8) report.text.length =
      .ok report.afterPkt := by
  have textEq := report.text_eq
  rw [← List.append_assoc] at textEq
  refine slice_eq_ok.mpr ⟨⟨?_, le_refl _⟩, ?_⟩
  · rw [textEq, List.length_append, length_marked]
    exact Nat.le_add_right _ _
  · rw [List.take_length, textEq, ← length_marked, List.drop_left]

theorem parseDigits_pktNum (report : Report) :
    parseDigits report.text (report.beforePkt.length + 8) = some report.pktNum.value := by
  have textEq : report.text = (report.beforePkt ++ pktNumMark) ++ (report.pktNum.bytes ++
      (ascii ", macid:" ++ (report.macid.bytes ++ (ascii ", " ++ (acMark ++
        (report.ac.bytes ++ report.rest)))))) := by
    rw [report.text_eq, Report.afterPkt, Report.beforeAc]
    simp only [List.append_assoc]
  rw [textEq, ← length_marked]
  refine parseDigits_eq _ _ ?_ report.pktNum_lt
  intro byte first
  cases first
  rfl

theorem parseDigits_ac (report : Report) :
    parseDigits report.text (report.beforePkt.length + 8 + report.beforeAc.length + 3) =
      some report.ac.value := by
  have textEq : report.text = (report.beforePkt ++ pktNumMark ++ report.beforeAc ++ acMark) ++
      (report.ac.bytes ++ report.rest) := by
    rw [report.text_eq, Report.afterPkt]
    simp only [List.append_assoc]
  have markLength : acMark.length = 3 := by decide
  have passed : (report.beforePkt ++ pktNumMark ++ report.beforeAc ++ acMark).length =
      report.beforePkt.length + 8 + report.beforeAc.length + 3 := by
    rw [List.length_append, List.length_append, length_marked, markLength]
  rw [textEq, ← passed]
  exact parseDigits_eq _ _ report.ended report.ac_lt

/-- The line of a queue charges its packets to its access category. -/
theorem scanLine_report (queueInfo : MACQueueInfo) (report : Report) :
    scanLine queueInfo report.text =
      (add 64 ((queueInfo.lookup report.entry.1).getD 0) report.entry.2).map fun total =>
        queueInfo.insert report.entry.1 total := by
  have plain : ¬(find beaconMark report.text).isSome = true := by simp [report.find_beacon]
  rw [scanLine, if_neg plain, report.find_pktNum]
  simp only [slice_afterPkt, ok_bind, report.find_ac, parseDigits_pktNum, parseDigits_ac]
  rfl

/-! ## Reading a text -/

/-- A line of the driver's format: one that a beacon is named in, or a queue's. -/
inductive QueueLine where
  | beacon (line : List UInt8) (marked : beaconMark <:+: line)
  | queue (report : Report)

namespace QueueLine

def text : QueueLine → List UInt8
  | .beacon line _ => line
  | .queue report => report.text

def entry? : QueueLine → Option (UInt8 × Nat)
  | .beacon _ _ => none
  | .queue report => some report.entry

end QueueLine

/-- What the lines of queues report, by access category. -/
def entries (texts : List QueueLine) : List (UInt8 × Nat) := texts.filterMap QueueLine.entry?

/-- The packets of all queues of an access category. -/
def packets (texts : List QueueLine) (key : UInt8) : Nat := total (entries texts) key

/-- One line more is tallied, if the sum of its key fits. -/
theorem scanLine_tally {past : List (UInt8 × Nat)} {line : QueueLine}
    (bounded : ∀ key, total (past ++ entries [line]) key < 2 ^ 64) :
    scanLine (tally past) line.text = .ok (tally (past ++ entries [line])) := by
  cases line with
  | beacon line marked =>
      change scanLine (tally past) line = .ok (tally (past ++ []))
      rw [scanLine_beacon marked, List.append_nil]
  | queue report =>
      have fits := bounded report.entry.1
      change total (past ++ [report.entry]) report.entry.1 < 2 ^ 64 at fits
      change scanLine (tally past) report.text = .ok (tally (past ++ [report.entry]))
      rw [total_append, total_singleton, if_pos rfl] at fits
      rw [scanLine_report, getD_lookup_tally, add, if_pos fits, tally_concat, charge,
        getD_lookup_tally]
      rfl

/-- The loop over the lines tallies what they report. -/
theorem scanLines_tally {past : List (UInt8 × Nat)} {texts : List QueueLine}
    (bounded : ∀ key, total (past ++ entries texts) key < 2 ^ 64) :
    (texts.map QueueLine.text).foldlM scanLine (tally past) =
      .ok (tally (past ++ entries texts)) := by
  induction texts generalizing past with
  | nil => simp [entries]
  | cons line texts ih =>
      have split : past ++ entries (line :: texts) =
          past ++ entries [line] ++ entries texts := by
        rw [List.append_assoc, entries, entries, entries, ← List.filterMap_append]
        rfl
      rw [split] at bounded ⊢
      have first : ∀ key, total (past ++ entries [line]) key < 2 ^ 64 := by
        intro key
        have fits := bounded key
        rw [total_append] at fits
        exact (Nat.le_add_right _ _).trans_lt fits
      rw [List.map_cons, List.foldlM_cons, scanLine_tally first, ok_bind]
      exact ih bounded

theorem updateQueueInfo_eq {data : List UInt8} {texts : List QueueLine}
    (shaped : lines data = texts.map QueueLine.text)
    (bounded : ∀ key, packets texts key < 2 ^ 64) (query : MACQueueQuery) :
    query.updateQueueInfo (some data) =
      .ok { query with queueInfo := tally (entries texts) } := by
  have scanned : (texts.map QueueLine.text).foldlM scanLine (tally []) =
      .ok (tally ([] ++ entries texts)) := scanLines_tally bounded
  have cleared : (tally [] : MACQueueInfo) = ∅ := rfl
  rw [updateQueueInfo, shaped, ← cleared, scanned]
  rfl

theorem mem_keys_entries {texts : List QueueLine} {key : UInt8} :
    key ∈ (entries texts).map Prod.fst ↔
      ∃ report, .queue report ∈ texts ∧ acKey report.ac.value = key := by
  rw [List.mem_map]
  constructor
  · rintro ⟨entry, member, rfl⟩
    rcases List.mem_filterMap.mp member with ⟨line, inTexts, reported⟩
    cases line with
    | beacon => cases reported
    | queue report =>
        cases reported
        exact ⟨report, inTexts, rfl⟩
  · rintro ⟨report, inTexts, rfl⟩
    exact ⟨report.entry, List.mem_filterMap.mpr ⟨.queue report, inTexts, rfl⟩, rfl⟩

/-- The texts of permuted lines are those of a permuted description. -/
theorem exists_perm_of_lines {data other : List UInt8} {texts : List QueueLine}
    (shaped : lines data = texts.map QueueLine.text)
    (permuted : (lines other).Perm (lines data)) :
    ∃ others : List QueueLine, lines other = others.map QueueLine.text ∧
      others.Perm texts := by
  rw [shaped] at permuted
  have described := List.eq_map_comp_perm QueueLine.text
  exact (congrFun (congrFun described (lines other)) texts).mpr permuted

/-- On a text of such lines, whatever the queues were before: an access category is
there exactly if a queue's line has it, with the packets of all such lines, and the
order of the lines plays no role. -/
theorem queue_info_sums {data : List UInt8} {texts : List QueueLine}
    (shaped : lines data = texts.map QueueLine.text)
    (bounded : ∀ key, packets texts key < 2 ^ 64) (query : MACQueueQuery) :
    ∃ next, query.updateQueueInfo (some data) = .ok next ∧
      (∀ key, key ∈ next.queueInfo ↔
        ∃ report, .queue report ∈ texts ∧ acKey report.ac.value = key) ∧
      (∀ key sum, next.queueInfo.lookup key = some sum → sum = packets texts key) ∧
      ∀ (other : List UInt8) (previous : MACQueueQuery), (lines other).Perm (lines data) →
        previous.updateQueueInfo (some other) = .ok next := by
  refine ⟨_, updateQueueInfo_eq shaped bounded query, ?_, ?_, ?_⟩
  · intro key
    rw [← Finmap.lookup_isSome, lookup_tally, ← mem_keys_entries]
    split
    next known => exact iff_of_true rfl known
    next new => exact iff_of_false (by simp) new
  · intro key sum found
    rw [lookup_tally, Option.ite_none_right_eq_some] at found
    exact (Option.some.inj found.2).symm
  · intro other previous permuted
    rcases exists_perm_of_lines shaped permuted with ⟨others, described, perm⟩
    have same : (entries others).Perm (entries texts) := perm.filterMap _
    have boundedOthers : ∀ key, packets others key < 2 ^ 64 := by
      intro key
      rw [packets, total_perm same]
      exact bounded key
    rw [updateQueueInfo_eq described boundedOthers, tally_perm same]

def zeroField : Field :=
  ⟨ascii "0", by decide, by decide, by decide, by decide⟩

/-- `head:0, tail:0, pkt_num:3, macid:1, ac:1` -/
def threePackets : Report where
  head := zeroField
  tail := zeroField
  pktNum := ⟨ascii "3", by decide, List.all_eq_true.mp (by decide)⟩
  macid := ⟨ascii "1", by decide, List.all_eq_true.mp (by decide)⟩
  ac := ⟨ascii "1", by decide, List.all_eq_true.mp (by decide)⟩
  rest := []
  pktNum_lt := by decide
  ac_lt := by decide
  ended := by simp
  no_beacon := by decide

/-- A beacon between two queues. -/
def threeLines : List QueueLine :=
  [.queue threePackets, .beacon (ascii "BCN: 0") (by decide), .queue threePackets]

def threeLinesText : List UInt8 :=
  ascii "head:0, tail:0, pkt_num:3, macid:1, ac:1\nBCN: 0\r\n" ++
    ascii "head:0, tail:0, pkt_num:3, macid:1, ac:1"

theorem queue_info_sums_three :
    ∃ next, MACQueueQuery.updateQueueInfo ⟨∅⟩ (some threeLinesText) = .ok next ∧
      next.queueInfo.lookup 1 = some 6 := by
  have shaped : lines threeLinesText = threeLines.map QueueLine.text := by decide +kernel
  have entriesEq : entries threeLines = [(1, 3), (1, 3)] := by decide +kernel
  have bounded : ∀ key, packets threeLines key < 2 ^ 64 := by
    intro key
    rw [packets, entriesEq]
    by_cases same : 1 = key
    · simp [total, same]
    · simp [total, same]
  rcases queue_info_sums shaped bounded ⟨∅⟩ with ⟨next, updated, keys, sums, _⟩
  have known : 1 ∈ next.queueInfo := (keys 1).mpr ⟨threePackets, List.mem_cons_self, by decide⟩
  rcases Finmap.mem_iff.mp known with ⟨sum, found⟩
  refine ⟨next, updated, ?_⟩
  rw [found, sums 1 sum found, packets, entriesEq]
  rfl

end MACQueueQuery

end StreamReplay
