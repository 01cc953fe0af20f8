import ChipEight.Proofs.Disassembly
import ChipEight.Trace
import Mathlib.Data.List.TakeWhile

/-!
# Lines of a trace can be read again

A line of a trace (`TraceRecord`) is made for the eye.  Addresses and words stand in columns, but
any integer can be one, so a column is as wide as its number; a mnemonic is filled up with blanks;
there may be operands or none; and what is blank at the end is dropped.  None of this makes a line
ambiguous.  Blanks stand between the parts of a line and never inside of one, so that a line is
known by its words, however many blanks are between them.

* `Text.words` — what stands between the blanks of a text.  Dropping the blanks at the end takes
  nothing from any word (`Text.words_trimRight`).
* `Assembly.Legible` — a mnemonic and operands that are words without a comma, as those of all
  words of the machine are (`Assembly.legible_ofWord`).
* `Record.words_line` — the words of the line of a record.
* `Record.ofLine?` — reads a line: all four fields, each from its own words.
* `Record.line_eq_line_iff` — records of different words or addresses have different lines.
-/

namespace ChipEight

open Text (hexChars signedValue signedValue_hexChars)

namespace Text

/-! ## Words -/

/-- The words of a text: what stands between its blanks. -/
def words (cs : List Char) : List (List Char) :=
  (cs.splitOnP isBlank).filter fun w => !w.isEmpty

@[simp] theorem words_nil : words [] = [] := by
  simp [words, List.splitOnP_nil]

/-- A blank ends a word. -/
theorem words_append_blank {c : Char} (hc : isBlank c = true) (front rest : List Char) :
    words (front ++ c :: rest) = words front ++ words rest := by
  rw [words, List.splitOnP_append_cons front rest hc, List.filter_append]
  rfl

theorem words_cons_blank {c : Char} (hc : isBlank c = true) (rest : List Char) :
    words (c :: rest) = words rest := by
  have h := words_append_blank hc [] rest
  rwa [words_nil] at h

theorem words_of_unbroken {cs : List Char} (hne : cs ≠ []) (h : ∀ c ∈ cs, isBlank c = false) :
    words cs = [cs] := by
  rw [words, List.splitOnP_eq_singleton h]
  simp [hne]

/-- Blanks at the end belong to no word. -/
theorem words_append_blanks (cs : List Char) {blanks : List Char}
    (h : ∀ c ∈ blanks, isBlank c = true) : words (cs ++ blanks) = words cs := by
  induction blanks generalizing cs with
  | nil => rw [List.append_nil]
  | cons c rest ih =>
    have hrest : words rest = [] := ih [] fun d hd => h d (List.mem_cons_of_mem c hd)
    rw [words_append_blank (h c List.mem_cons_self), hrest, List.append_nil]

/-- **Dropping the blanks at the end takes nothing from any word.** -/
theorem words_trimRight (cs : List Char) : words (trimRight cs) = words cs := by
  have hsplit : trimRight cs ++ (cs.reverse.takeWhile isBlank).reverse = cs := by
    rw [trimRight, dropTrailing, ← List.reverse_append, List.takeWhile_append_dropWhile,
      List.reverse_reverse]
  have hblank : ∀ c ∈ (cs.reverse.takeWhile isBlank).reverse, isBlank c = true := by
    intro c hc
    exact List.mem_takeWhile_imp (List.mem_reverse.1 hc)
  calc
    words (trimRight cs) = words (trimRight cs ++ (cs.reverse.takeWhile isBlank).reverse) :=
      (words_append_blanks _ hblank).symm
    _ = words cs := by rw [hsplit]

/-! ## Lists of words -/

/-- Characters that can be told apart from what separates the items of a list: there are some,
and none is blank or a comma. -/
structure Item (cs : List Char) : Prop where
  ne_nil : cs ≠ []
  solid : ∀ c ∈ cs, isBlank c = false ∧ c ≠ ','

theorem item_iff {cs : List Char} :
    (!cs.isEmpty && cs.all fun c => !isBlank c && c != ',') = true ↔ Item cs := by
  simp only [Bool.and_eq_true, Bool.not_eq_true', List.isEmpty_eq_false_iff, List.all_eq_true,
    bne_iff_ne]
  exact ⟨fun h => ⟨h.1, h.2⟩, fun h => ⟨h.ne_nil, h.solid⟩⟩

instance (cs : List Char) : Decidable (Item cs) := decidable_of_iff _ item_iff

theorem Item.cons {cs : List Char} (h : Item cs) {c : Char} (hc : isBlank c = false ∧ c ≠ ',') :
    Item (c :: cs) where
  ne_nil := List.cons_ne_nil c cs
  solid := by
    intro d hd
    rcases List.mem_cons.1 hd with rfl | hd
    · exact hc
    · exact h.solid d hd

theorem Item.words_eq {cs : List Char} (h : Item cs) : words cs = [cs] :=
  words_of_unbroken h.ne_nil fun c hc => (h.solid c hc).1

/-- Items with a comma behind each but the last. -/
def listed : List (List Char) → List (List Char)
  | [] => []
  | [w] => [w]
  | w :: v :: rest => (w ++ [',']) :: listed (v :: rest)

theorem words_intercalate {items : List (List Char)} (h : ∀ w ∈ items, Item w) :
    words ([',', ' '].intercalate items) = listed items := by
  induction items with
  | nil => exact words_nil
  | cons w rest ih =>
    have hw : Item w := h w List.mem_cons_self
    cases rest with
    | nil => simpa [listed] using hw.words_eq
    | cons v rest =>
      -- the comma stays with the item in front of it, and the blank behind it ends the word
      have hcomma : ∀ c ∈ w ++ [','], isBlank c = false := by
        intro c hc
        rcases List.mem_append.1 hc with hin | hlast
        · exact (hw.solid c hin).1
        · rw [List.mem_singleton.1 hlast]
          rfl
      have hsplit : [',', ' '].intercalate (w :: v :: rest) =
          (w ++ [',']) ++ ' ' :: [',', ' '].intercalate (v :: rest) := by
        simp [List.intercalate_cons_cons]
      rw [hsplit, words_append_blank (by decide), words_of_unbroken (by simp) hcomma,
        ih fun u hu => h u (List.mem_cons_of_mem w hu), listed]
      rfl

/-- Without the commas the items are left. -/
theorem filter_listed {items : List (List Char)} (h : ∀ w ∈ items, Item w) :
    (listed items).map (fun w => w.filter (· ≠ ',')) = items := by
  induction items with
  | nil => rfl
  | cons w rest ih =>
    have hkeep : w.filter (· ≠ ',') = w := by
      rw [List.filter_eq_self]
      intro c hc
      simpa using ((h w List.mem_cons_self).solid c hc).2
    cases rest with
    | nil => rw [listed, List.map_cons, hkeep, List.map_nil]
    | cons v rest =>
      have hrest := ih fun u hu => h u (List.mem_cons_of_mem w hu)
      rw [listed, List.map_cons, hrest, List.filter_append, hkeep]
      simp

/-! ## Numerals and operands as items -/

theorem solid_digit {d : Nat} (h : d < 36) : isBlank (digit d) = false ∧ digit d ≠ ',' := by
  have hall : ∀ d < 36, isBlank (digit d) = false ∧ digit d ≠ ',' := by decide
  exact hall d h

theorem item_hexChars (width : Nat) (n : Int) : Item (hexChars width n) := by
  have hdigits : ∀ c ∈ digits 16 n.natAbs, isBlank c = false ∧ c ≠ ',' := by
    intro c hc
    obtain ⟨d, hd, rfl⟩ := exists_digit_of_mem_digits (by decide) hc
    exact solid_digit (by omega)
  have hpadded : ∀ width, Item (padLeft '0' width (digits 16 n.natAbs)) := by
    intro width
    constructor
    · simp [padLeft, digits_ne_nil]
    · intro c hc
      rcases List.mem_append.1 hc with hzero | hdigit
      · rw [List.eq_of_mem_replicate hzero]
        decide
      · exact hdigits c hdigit
  unfold hexChars
  split
  · exact (hpadded _).cons (by decide)
  · exact hpadded _

theorem item_rows (n : Nibble) : Item (decimal n.val).toList := by
  revert n
  decide +kernel

end Text

theorem Operand.item_text (o : Operand) : Text.Item o.text.toList := by
  cases o with
  | register x =>
    rw [text, toList_register]
    exact (Text.item_hexChars 1 x.val).cons (by decide)
  | byte b =>
    rw [text, toList_byte]
    exact ((Text.item_hexChars 2 b.toNat).cons (by decide)).cons (by decide)
  | address a =>
    rw [text, toList_address]
    exact ((Text.item_hexChars 3 a.val).cons (by decide)).cons (by decide)
  | rows n => exact Text.item_rows n
  | _ => decide +kernel

/-! ## Lines -/

namespace Assembly

/-- A mnemonic and operands that can be told apart from what separates them. -/
structure Legible (a : Assembly) : Prop where
  mnemonic : Text.Item a.mnemonic.toList
  operands : ∀ o ∈ a.operands, Text.Item o.toList

theorem Legible.items {a : Assembly} (h : a.Legible) :
    ∀ w ∈ a.operands.map String.toList, Text.Item w := by
  intro w hw
  obtain ⟨o, ho, rfl⟩ := List.mem_map.1 hw
  exact h.operands o ho

theorem item_mnemonic (i : Instruction) : Text.Item (ofInstruction i).mnemonic.toList := by
  cases i with
  | skipIf t => cases t <;> simp only [ofInstruction, ofTest] <;> decide +kernel
  | alu op x y => cases op <;> simp only [ofInstruction, aluMnemonic] <;> decide +kernel
  | _ => simp only [ofInstruction]; decide +kernel

theorem legible_ofInstruction (i : Instruction) : (ofInstruction i).Legible where
  mnemonic := item_mnemonic i
  operands := by
    intro o ho
    rw [operands_ofInstruction] at ho
    obtain ⟨operand, -, rfl⟩ := List.mem_map.1 ho
    exact operand.item_text

/-- **Every word has a legible form**, also one without an instruction. -/
theorem legible_ofWord (word : Int) : (ofWord word).Legible := by
  rw [ofWord_eq]
  cases Instruction.ofWord? word with
  | some i => exact legible_ofInstruction i
  | none => exact ⟨by decide +kernel, by simp [unknown]⟩

end Assembly

namespace Record

/-- **The words of a line**, with a comma behind each operand but the last. -/
theorem words_line {r : Record} (h : r.assembly.Legible) :
    Text.words r.line.toList =
      ('0' :: 'x' :: hexChars 3 r.address) :: hexChars 4 r.opcode :: r.assembly.mnemonic.toList ::
        Text.listed (r.assembly.operands.map String.toList) := by
  have haddress : Text.Item ('0' :: 'x' :: hexChars 3 r.address) :=
    ((Text.item_hexChars 3 r.address).cons (by decide)).cons (by decide)
  have hopcode : Text.Item (hexChars 4 r.opcode) := Text.item_hexChars 4 r.opcode
  have hfill : ∀ c ∈ List.replicate (4 - r.assembly.mnemonic.toList.length) ' ',
      Text.isBlank c = true := by
    intro c hc
    rw [List.eq_of_mem_replicate hc]
    rfl
  have hspace : Text.isBlank ' ' = true := rfl
  -- what was dropped at the end may come back, as it is part of no word
  have hline : Text.words r.line.toList =
      Text.words (('0' :: 'x' :: hexChars 3 r.address) ++ ' ' :: ' ' :: (hexChars 4 r.opcode ++
        ' ' :: ' ' :: (Text.padRight ' ' 4 r.assembly.mnemonic.toList ++
          ' ' :: [',', ' '].intercalate (r.assembly.operands.map String.toList)))) := by
    rw [line, String.toList_ofList, lineChars, Text.words_trimRight]
    simp
  rw [hline, Text.words_append_blank hspace, Text.words_cons_blank hspace,
    Text.words_append_blank hspace, Text.words_cons_blank hspace, Text.words_append_blank hspace,
    Text.padRight, Text.words_append_blanks _ hfill, Text.words_intercalate h.items,
    haddress.words_eq, hopcode.words_eq, h.mnemonic.words_eq]
  rfl

/-- Reads a record from the words of its line. -/
def ofWords? : List (List Char) → Option Record
  | address :: opcode :: mnemonic :: operands =>
    some {
      address := signedValue 16 (address.drop 2)
      opcode := signedValue 16 opcode
      assembly := {
        mnemonic := String.ofList mnemonic
        operands := operands.map fun w => String.ofList (w.filter (· ≠ ',')) } }
  | _ => none

/-- Reads a line of a trace.  The mnemonic and the operands are taken from the text, not from the
word in front of them. -/
def ofLine? (line : String) : Option Record := ofWords? (Text.words line.toList)

/-- **A line is read back as its record.** -/
theorem ofLine?_line {r : Record} (h : r.assembly.Legible) : ofLine? r.line = some r := by
  have hoperands : (Text.listed (r.assembly.operands.map String.toList)).map
      (fun w => String.ofList (w.filter (· ≠ ','))) = r.assembly.operands := by
    have hfiltered := congrArg (List.map String.ofList) (Text.filter_listed h.items)
    rw [List.map_map, List.map_map] at hfiltered
    refine hfiltered.trans ?_
    simp [Function.comp_def]
  rw [ofLine?, words_line h, ofWords?, hoperands]
  simp [signedValue_hexChars]

/-- **A line tells its record.**  Whatever the addresses and the words, of any size and either
sign, two records have the same line only if they are of the same word at the same address.  All
four fields of a record can be read from its line. -/
theorem line_eq_line_iff (a w b v : Int) :
    ((ofWord a w).line = (ofWord b v).line ↔ a = b ∧ w = v) ∧
      ofLine? (ofWord a w).line = some (ofWord a w) := by
  have hread : ∀ a w : Int, ofLine? (ofWord a w).line = some (ofWord a w) :=
    fun a w => ofLine?_line (Assembly.legible_ofWord w)
  refine ⟨?_, hread a w⟩
  constructor
  · intro h
    have hsame : some (ofWord a w) = some (ofWord b v) := by rw [← hread a w, h, hread b v]
    cases Option.some.inj hsame
    exact ⟨rfl, rfl⟩
  · rintro ⟨rfl, rfl⟩
    rfl

example : (ofWord (-1) 0x1F20A).line = "0x-01  1F20A  LD   V2, K" := by decide +kernel

end Record

end ChipEight
