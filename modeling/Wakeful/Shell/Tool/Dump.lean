import Wakeful.Shell.Tool.Digest

/-! Programs that show octets as numbers, or write them with few letters. -/

namespace Wakeful.Shell.Tool

/-! ### Numbers -/

/-- How octets are shown. -/
structure DumpForm where
  /-- The letter for the base, or for letters or names. -/
  kind : Char
  /-- The number of octets that belong together. -/
  size : Nat
  /-- Whether the letters themselves come after the numbers. -/
  showsText : Bool
  deriving DecidableEq, Repr

namespace DumpForm

/-- The number of digits that the greatest number of the form can have. -/
def width (form : DumpForm) : Nat :=
  -- A sign takes a place too.
  let places : List Nat := match form.kind with
    | 'o' => [3, 6, 11, 22]
    | 'd' => [4, 6, 11, 20]
    | 'u' => [3, 5, 10, 20]
    | 'x' => [2, 4, 8, 16]
    | _ => [3, 3, 3, 3]
  places.getD (Nat.log2 form.size) 3

/-- The names of the octets that cannot be seen. -/
def names : List String :=
  -- They come in the order of the octets.
  ["nul", "soh", "stx", "etx", "eot", "enq", "ack", "bel", "bs", "ht", "nl", "vt", "ff", "cr", "so",
    "si", "dle", "dc1", "dc2", "dc3", "dc4", "nak", "syn", "etb", "can", "em", "sub", "esc", "fs",
    "gs", "rs", "us", "sp"]

/-- Digits with noughts before them. -/
def padded (width : Nat) (digits : Letters) : Letters :=
  List.replicate (width - digits.length) '0' ++ digits

/-- Octets that belong together, as they are shown. -/
def item (form : DumpForm) (octets : Octets) : Letters :=
  -- The first octet is the least significant one.
  let value := octets.foldr (fun octet value => value * 256 + octet.toNat) 0
  match form.kind with
  | 'o' => padded form.width (Nat.toDigits 8 value)
  | 'x' => padded form.width (Nat.toDigits 16 value)
  | 'u' => digitsOf (value : Nat)
  | 'd' =>
    let bound := Nat.pow 256 form.size
    digitsOf (if bound ≤ 2 * value then (value : Int) - bound else value)
  | 'a' => match names[value % 128]? with
    | some name => name.toList
    | none => if value % 128 = 127 then "del".toList else [Char.ofNat (value % 128)]
  | _ => match value with
    | 0 => "\\0".toList
    | 7 => "\\a".toList
    | 8 => "\\b".toList
    | 9 => "\\t".toList
    | 10 => "\\n".toList
    | 11 => "\\v".toList
    | 12 => "\\f".toList
    | 13 => "\\r".toList
    | _ => if 32 ≤ value && value < 127 then [Char.ofNat value] else padded 3 (Nat.toDigits 8 value)

/-- The forms that letters describe. -/
def read : (fuel : Nat) → Letters → Option (List DumpForm)
  -- A number or a letter for the size follows the letter.
  | 0, _ => none
  | _ + 1, [] => some []
  | fuel + 1, kind :: rest =>
    let form (size : Nat) (rest : Letters) : Option (List DumpForm) :=
      let showsText := rest.head? = some 'z'
      (read fuel (if showsText then rest.drop 1 else rest)).map (⟨kind, size, showsText⟩ :: ·)
    if kind = 'a' || kind = 'c' then form 1 rest
    else if "doux".toList.contains kind then
      let digits := rest.takeWhile Char.isDigit
      match rest, number? digits with
      | _, some size =>
        if [1, 2, 4, 8].contains size then form size (rest.drop digits.length) else none
      | 'C' :: others, none => form 1 others
      | 'S' :: others, none => form 2 others
      | 'I' :: others, none => form 4 others
      | 'L' :: others, none => form 8 others
      | _, none => form 4 rest
    else none

/-- A line of octets in a form, in which the numbers take up a width. -/
def line (form : DumpForm) (count width : Nat) (octets : Octets) : Letters :=
  -- Blanks are divided among the numbers.
  let fields := count / form.size
  let spare := width - fields * (form.width + 1)
  let items := (chunks form.size (octets.length + 1) octets).zipIdx
  let body := items.flatMap fun (part, place) =>
    let left := spare * (fields - place) / fields
    let next := spare * (fields - place - 1) / fields
    rightAligned (form.width + 1 + left - next) (form.item part)
  let text := octets.map fun octet =>
    if 32 ≤ octet.toNat && octet.toNat < 127 then Char.ofNat octet.toNat else '.'
  if form.showsText then
    body ++ List.replicate (width - body.length) ' ' ++ "  >".toList ++ text ++ ['<']
  else body

end DumpForm

/-- Shows octets as numbers. -/
def od : Task → Result :=
  -- Equal lines after one another are shown once.
  withChoices ⟨"abcdfiloqsvx", "ANjtwS",
    [("address-radix", 'A'), ("skip-bytes", 'j'), ("read-bytes", 'N'), ("format", 't'),
      ("output-duplicates", 'v'), ("width", 'w')], true⟩ 1 fun task choices =>
    let described (letter : Char) (value : Letters) : Option (List DumpForm) := match letter with
      | 'a' => some [⟨'a', 1, false⟩]
      | 'b' => some [⟨'o', 1, false⟩]
      | 'c' => some [⟨'c', 1, false⟩]
      | 'd' => some [⟨'u', 2, false⟩]
      | 'i' => some [⟨'d', 4, false⟩]
      | 'l' => some [⟨'d', 8, false⟩]
      | 'o' => some [⟨'o', 2, false⟩]
      | 's' => some [⟨'d', 2, false⟩]
      | 'x' => some [⟨'x', 2, false⟩]
      | 't' => DumpForm.read (value.length + 1) value
      | _ => some []
    let files := task.files choices.operands
    let complaints := task.complaints files
    match choices.chosen.mapM fun (letter, value) => described letter value with
    | none => task.failing 1 "invalid type string".toList
    | some forms =>
      let forms := if forms.flatten.isEmpty then [⟨'o', 2, false⟩] else forms.flatten
      let count := ((choices.value? 'w').bind number?).getD 16
      let skipped := ((choices.value? 'j').bind multiple?).getD 0
      let octets := (files.flatMap fun file => octetsOf (file.2.toOption.getD [])).drop skipped
      let octets := ((choices.value? 'N').bind multiple?).elim octets (octets.take ·)
      let address (place : Nat) : Letters :=
        match ((choices.value? 'A').bind (·.head?)).getD 'o' with
        | 'n' => []
        | 'd' => DumpForm.padded 7 (digitsOf place)
        | 'x' => DumpForm.padded 6 (Nat.toDigits 16 place)
        | _ => DumpForm.padded 7 (Nat.toDigits 8 place)
      let width :=
        forms.foldl (fun most (form : DumpForm) =>
          max most (count / form.size * (form.width + 1))) 0
      let rows := (chunks count (octets.length + 1) octets).zipIdx
      let (written, _, _) := rows.foldl (fun (written, former, isRepeated) (row, place) =>
        if !choices.has 'v' && former = some row && row.length = count then
          (if isRepeated then written else written ++ "*\n".toList, former, true)
        else
          let start := address (skipped + place * count)
          let shown := forms.zipIdx.flatMap fun (form, number) =>
            (if number = 0 then start else List.replicate start.length ' ') ++
              form.line count width row ++ ['\n']
          (written ++ shown, some row, false)) (([] : Letters), (none : Option Octets), false)
      let last := address (skipped + octets.length)
      let text := written ++ if last.isEmpty then [] else last ++ ['\n']
      ⟨if complaints.isEmpty then 0 else 1, complaints ++ [(1, text)],
        task.restAfter choices.operands, task.workplace⟩

/-! ### Few letters -/

/-- The letters that stand for six bits each. -/
def sixBitLetters : Letters :=
  "ABCDEFGHIJKLMNOPQRSTUVWXYZabcdefghijklmnopqrstuvwxyz0123456789+/".toList

/-- Octets written with letters for six bits each. -/
def sixBits (octets : Octets) : Letters :=
  -- Three octets make four letters, and missing ones are marked.
  (chunks 3 (octets.length + 1) octets).flatMap fun part =>
    let value := (part ++ List.replicate (3 - part.length) 0).foldl
      (fun value octet => value * 256 + octet.toNat) 0
    let letters :=
      [18, 12, 6, 0].map fun shift => sixBitLetters.getD (value / Nat.pow 2 shift % 64) '='
    letters.take (part.length + 1) ++ List.replicate (3 - part.length) '='

/--
The octets that letters for six bits each stand for, and whether all of them could be understood.
-/
def fromSixBits : (fuel : Nat) → Letters → Octets × Bool
  -- Four letters are taken at once.
  | 0, _ => ([], false)
  | _ + 1, [] => ([], true)
  | fuel + 1, letters =>
    let group := letters.take 4
    let meant := group.takeWhile (· ≠ '=')
    match meant.mapM fun letter => sixBitLetters.idxOf? letter with
    | none => ([], false)
    | some places =>
      let value := (places ++ List.replicate (4 - places.length) 0).foldl
        (fun value place => value * 64 + place) 0
      let octets := ([16, 8, 0].map fun shift => UInt8.ofNat (value / Nat.pow 2 shift % 256)).take
        (places.length - 1)
      let isWhole :=
        group.length = 4 && 2 ≤ places.length && (group.drop meant.length).all (· = '=')
      if !isWhole then (octets, false)
      else
        let (others, isGood) := fromSixBits fuel (letters.drop 4)
        (octets ++ others, isGood)

/-- Writes files with few letters, or back. -/
def base64 : Task → Result :=
  -- Lines have at most so many letters.
  withChoices ⟨"di", "w", [("decode", 'd'), ("ignore-garbage", 'i'), ("wrap", 'w')],
    true⟩ 1 fun task choices =>
    match choices.operands with
    | _ :: extra :: _ => task.misused 1 ("extra operand '".toList ++ extra ++ ['\''])
    | paths => match (task.files paths).head? with
      | some (_, .ok text) =>
        if choices.has 'd' then
          let meant := text.filter fun letter =>
            letter ≠ '\n' && (!choices.has 'i' || letter = '=' || sixBitLetters.contains letter)
          let (octets, isGood) := fromSixBits (meant.length + 1) meant
          let complaint := if isGood then [] else [(2, task.complaint "invalid input".toList)]
          ⟨if isGood then 0 else 1, (1, lettersOf octets) :: complaint, task.restAfter paths,
            task.workplace⟩
        else
          let letters := sixBits (octetsOf text)
          let width := ((choices.value? 'w').bind number?).getD 76
          let rows := if width = 0 then [octetsOf letters]
            else chunks width (letters.length + 1) (octetsOf letters)
          let ends (row : Octets) : Letters := lettersOf row ++ if width = 0 then [] else ['\n']
          ⟨0, [(1, rows.flatMap ends)], task.restAfter paths, task.workplace⟩
      | some (path, .error reason) =>
        ⟨1, [(2, task.refused path reason)], task.input, task.workplace⟩
      | none => task.saying 0 []

end Wakeful.Shell.Tool
