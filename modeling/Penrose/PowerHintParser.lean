import Mathlib.Data.List.Forall2
import Mathlib.Data.List.TakeDrop
import Penrose.Numerals

/-! `powerhintparser`: the table of hints that is read from a document. A call for a hint reads the document again
as long as the first hint of the table has no parameters, and what is read then comes after what is there. -/

namespace Penrose.Power

def maxHint : Nat := 6

def maxParam : Nat := 30

/-! ### Documents -/

/-- A property of a node; there is no value if `xmlGetProp` cannot copy it. -/
structure XmlProp where
  name : List Char
  value : Option (List Char)

/-- A node of the tree. Only an element has properties, but other nodes have names, too. -/
inductive XmlNode where
  | node (isElement : Bool) (name : List Char) (props : List XmlProp) (children : List XmlNode)

namespace XmlNode

def isElement : XmlNode → Bool
  | node isElement _ _ _ => isElement

def name : XmlNode → List Char
  | node _ name _ _ => name

def children : XmlNode → List XmlNode
  | node _ _ _ children => children

/-- `xmlHasProp` and `xmlGetProp`: whether there is a property with the name, and its value. -/
def prop : XmlNode → List Char → Option (Option (List Char))
  | node isElement _ props _, name =>
      if isElement then (props.find? fun prop => prop.name = name).map XmlProp.value else none

end XmlNode

/-- The file, as far as it gets: it may be missing, unreadable or empty. -/
inductive PowerhintXml where
  | missing | unparsed | empty
  | root (element : XmlNode)

def powerhintName : List Char := "Powerhint".toList

def hintName : List Char := "Hint".toList

def resourceName : List Char := "Resource".toList

def typeName : List Char := "type".toList

def opcodeName : List Char := "opcode".toList

def valueName : List Char := "value".toList

/-! ### The table -/

/-- `perflock_param_t`. -/
structure PerflockParam where
  type : Int
  numParams : Nat
  paramList : List Int
  deriving DecidableEq

/-- The static variables of the parser. -/
structure PowerhintTable where
  powerhint : List PerflockParam
  hintCount : Nat
  deriving DecidableEq

namespace PowerhintTable

def noHint : PerflockParam := ⟨0, 0, List.replicate maxParam 0⟩

def start : PowerhintTable := ⟨List.replicate maxHint noHint, 0⟩

/-- A store into the table; there is nothing behind the last row. -/
def setHint (table : PowerhintTable) (row : Nat) (hint : PerflockParam) : Option PowerhintTable :=
  if row < table.powerhint.length then some { table with powerhint := table.powerhint.set row hint } else none

end PowerhintTable

/-- `paramList[index] = value`. -/
def PerflockParam.setParam (hint : PerflockParam) (index : Nat) (value : Int) : Option PerflockParam :=
  if index < hint.paramList.length then some { hint with paramList := hint.paramList.set index value } else none

/-! ### The parser -/

/-- A number in hexadecimal digits, as an `int`. -/
def hexInt (text : List Char) : Int := toInt32 (strtol 16 text)

/-- What a property sets a variable to: its number, or nothing if there is no such property. The property may fail to
be copied. -/
def readProp (node : XmlNode) (name : List Char) (before : Int) : Option Int :=
  match node.prop name with
  | none => some before
  | some text => text.map hexInt

/-- How a loop ended. -/
inductive LoopEnd where
  | finished | failed
  deriving DecidableEq

/-- The loop over the nodes of a hint, which fills a row: how it ended, the row and the number of its parameters.
`opcode` and `value` are zero before each node. -/
def parseResources : List XmlNode → PerflockParam → Nat → Option (LoopEnd × PerflockParam × Nat)
  | [], hint, numParams => some (.finished, hint, numParams)
  | node :: nodes, hint, numParams =>
      if node.name = resourceName then
        match readProp node opcodeName 0, readProp node valueName 0 with
        | none, _ => some (.failed, hint, numParams)
        | some _, none => some (.failed, hint, numParams)
        | some opcode, some value =>
            if opcode > 0 then
              if numParams < maxParam - 1 then do
                let hint ← hint.setParam numParams opcode
                let hint ← hint.setParam (numParams + 1) value
                parseResources nodes hint (numParams + 2)
              else some (.finished, hint, numParams)
            else parseResources nodes hint numParams
      else parseResources nodes hint numParams

/-- The body of the loop over the hints, for a node called `Hint`: how it ended, the table and the type, which the
next hint takes over if it has none. -/
def parseHint (node : XmlNode) (table : PowerhintTable) (type : Int) : Option (LoopEnd × PowerhintTable × Int) :=
  match readProp node typeName type with
  | none => some (.failed, table, type)
  | some type => do
      let before ← table.powerhint[table.hintCount]?
      let (ended, hint, numParams) ← parseResources node.children before 0
      match ended with
      | .failed => do
          let table ← table.setHint table.hintCount hint
          some (.failed, table, type)
      | .finished => do
          let table ← table.setHint table.hintCount { hint with type := type, numParams := numParams }
          some (.finished, table, type)

/-- The loop over the nodes below the root. Every element takes a row. -/
def parseHints : List XmlNode → PowerhintTable → Int → Option (LoopEnd × PowerhintTable)
  | [], table, _ => some (.finished, table)
  | node :: nodes, table, type =>
      if !node.isElement then parseHints nodes table type
      else if table.hintCount = maxHint then some (.finished, table)
      else if node.name = hintName then do
        let (ended, table, type) ← parseHint node table type
        match ended with
        | .failed => some (.failed, table)
        | .finished => parseHints nodes { table with hintCount := table.hintCount + 1 } type
      else parseHints nodes { table with hintCount := table.hintCount + 1 } type

/-- `parsePowerhintXML`. -/
def parsePowerhintXML (xml : PowerhintXml) (table : PowerhintTable) : Option (Int × PowerhintTable) :=
  match xml with
  | .missing | .unparsed | .empty => some (-1, table)
  | .root element =>
      if element.name ≠ powerhintName then some (-1, table)
      else (parseHints element.children table 0).map fun ended =>
        (if ended.1 = .failed then -1 else 0, ended.2)

/-- `getPowerhint`: the row that is returned, if there is one, and the table. `params` is the number in the row. -/
def getPowerhint (hintId : Int) (xml : PowerhintXml) (table : PowerhintTable) :
    Option (Option PerflockParam × PowerhintTable) :=
  if hintId = 0 then some (none, table)
  else do
    let first ← table.powerhint[0]?
    let table ← if first.numParams = 0 then (parsePowerhintXML xml table).map Prod.snd else some table
    some ((table.powerhint.take maxHint).find? fun hint => hint.type = hintId, table)

/-! ### What a document says -/

/-- A hint: its type, and its resources as opcodes and values. -/
abbrev HintEntry : Type := Int × List (Int × Int)

/-- The resources of a hint for which there is room; the nodes behind are not looked at. There is no answer if one of
the properties cannot be copied. -/
def pairsOf : List XmlNode → Nat → Option (List (Int × Int))
  | [], _ => some []
  | node :: nodes, room =>
      if node.name = resourceName then
        match readProp node opcodeName 0, readProp node valueName 0 with
        | none, _ => none
        | some _, none => none
        | some opcode, some value =>
            if opcode > 0 then
              match room with
              | 0 => some []
              | room + 1 => (pairsOf nodes room).map fun pairs => (opcode, value) :: pairs
            else pairsOf nodes room
      else pairsOf nodes room

/-- A node called `Hint`, after one with this type. -/
def entryOf (node : XmlNode) (type : Int) : Option HintEntry :=
  (readProp node typeName type).bind fun type => (pairsOf node.children 15).map fun pairs => (type, pairs)

/-- The elements below the root, up to one that cannot be read. -/
def entriesOf : List XmlNode → Int → List HintEntry
  | [], _ => []
  | node :: nodes, type =>
      if !node.isElement then entriesOf nodes type
      else if node.name = hintName then
        match entryOf node type with
        | none => []
        | some entry => entry :: entriesOf nodes entry.1
      else (0, []) :: entriesOf nodes type

/-- What a document says about hints. -/
def PowerhintXml.entries : PowerhintXml → List HintEntry
  | .missing | .unparsed | .empty => []
  | .root element => if element.name ≠ powerhintName then [] else entriesOf element.children 0

/-! ### What the table holds -/

def flatten (pairs : List (Int × Int)) : List Int := pairs.flatMap fun pair => [pair.1, pair.2]

/-- A row holds a hint. -/
structure PerflockParam.Holds (hint : PerflockParam) (entry : HintEntry) : Prop where
  type_eq : hint.type = entry.1
  numParams_eq : hint.numParams = 2 * entry.2.length
  length_le : entry.2.length ≤ 15
  length_eq : hint.paramList.length = maxParam
  params_eq : hint.paramList.take hint.numParams = flatten entry.2
  positive : ∀ pair ∈ entry.2, 0 < pair.1

/-- The rows of a table hold these hints, and nothing behind. -/
structure PowerhintTable.Represents (table : PowerhintTable) (entries : List HintEntry) : Prop where
  hintCount_eq : table.hintCount = entries.length
  length_le : entries.length ≤ maxHint
  rows : List.Forall₂ PerflockParam.Holds table.powerhint
    (entries ++ List.replicate (maxHint - entries.length) (0, []))

theorem PerflockParam.holds_nothing {hint : PerflockParam} (htype : hint.type = 0) (hparams : hint.numParams = 0)
    (hlength : hint.paramList.length = maxParam) : hint.Holds (0, []) :=
  ⟨htype, hparams, Nat.zero_le 15, hlength, by rw [hparams]; rfl, fun pair hmem => (by cases hmem)⟩

theorem PowerhintTable.start_represents : PowerhintTable.start.Represents [] where
  hintCount_eq := rfl
  length_le := Nat.zero_le maxHint
  rows := by
    have hrow : PowerhintTable.noHint.Holds (0, []) := PerflockParam.holds_nothing rfl rfl rfl
    exact .cons hrow (.cons hrow (.cons hrow (.cons hrow (.cons hrow (.cons hrow .nil)))))

/-! ### Filling a row -/

/-- The first parameters of a row are those of some resources. -/
structure Filled (hint : PerflockParam) (pairs : List (Int × Int)) : Prop where
  length_le : pairs.length ≤ 15
  length_eq : hint.paramList.length = maxParam
  params_eq : hint.paramList.take (2 * pairs.length) = flatten pairs
  positive : ∀ pair ∈ pairs, 0 < pair.1

theorem take_succ_set {α : Type} {list : List α} {index : Nat} (hindex : index < list.length) (a : α) :
    (list.set index a).take (index + 1) = list.take index ++ [a] := by
  have hset : index < (list.set index a).length := by
    rw [List.length_set]
    exact hindex
  rw [List.take_succ_eq_append_getElem hset, List.getElem_set_self, List.take_set_of_le (Nat.le_refl index)]

theorem Filled.setParam {hint : PerflockParam} {pairs : List (Int × Int)} (h : Filled hint pairs)
    (hroom : pairs.length < 15) {opcode : Int} (hopcode : 0 < opcode) (value : Int) :
    ∃ first second, hint.setParam (2 * pairs.length) opcode = some first ∧
      first.setParam (2 * pairs.length + 1) value = some second ∧ second.type = hint.type ∧
      second.numParams = hint.numParams ∧ Filled second (pairs ++ [(opcode, value)]) := by
  have hlength : hint.paramList.length = 30 := h.length_eq
  have hfirst : 2 * pairs.length < hint.paramList.length := by omega
  have hsecond : 2 * pairs.length + 1 < (hint.paramList.set (2 * pairs.length) opcode).length := by
    rw [List.length_set]
    omega
  refine ⟨_, _, if_pos hfirst, if_pos hsecond, rfl, rfl, ?_, ?_, ?_, ?_⟩
  · rw [List.length_append, List.length_singleton]
    exact hroom
  · rw [List.length_set, List.length_set]
    exact h.length_eq
  · have hcount : 2 * (pairs ++ [(opcode, value)]).length = 2 * pairs.length + 1 + 1 := by
      rw [List.length_append, List.length_singleton]
      omega
    rw [hcount, take_succ_set hsecond, take_succ_set hfirst, h.params_eq, flatten, flatten, List.flatMap_append,
      List.append_assoc]
    rfl
  · intro pair hmem
    obtain hmem | hmem := List.mem_append.mp hmem
    · exact h.positive pair hmem
    · rw [List.mem_singleton.mp hmem]
      exact hopcode

/-- No store of the loop leaves the row; it fills the row with the resources that are read, or fails. -/
theorem parseResources_spec (nodes : List XmlNode) {hint : PerflockParam} {pairs : List (Int × Int)}
    (h : Filled hint pairs) {room : Nat} (hroom : pairs.length + room = 15) :
    ∃ ended later count, parseResources nodes hint (2 * pairs.length) = some (ended, later, count) ∧
      later.type = hint.type ∧ later.numParams = hint.numParams ∧ later.paramList.length = maxParam ∧
      match pairsOf nodes room with
      | none => ended = .failed
      | some rest => ended = .finished ∧ count = 2 * (pairs ++ rest).length ∧ Filled later (pairs ++ rest) := by
  induction nodes generalizing hint pairs room with
  | nil =>
      refine ⟨.finished, hint, 2 * pairs.length, rfl, rfl, rfl, h.length_eq, rfl, ?_, ?_⟩
      · rw [List.append_nil]
      · rw [List.append_nil]
        exact h
  | cons node nodes ih =>
      by_cases hname : node.name = resourceName
      · cases hopcode : readProp node opcodeName 0 with
        | none =>
            refine ⟨.failed, hint, 2 * pairs.length, ?_, rfl, rfl, h.length_eq, ?_⟩
            · rw [parseResources, if_pos hname, hopcode]
            · rw [pairsOf, if_pos hname, hopcode]
        | some opcode =>
        cases hvalue : readProp node valueName 0 with
        | none =>
            refine ⟨.failed, hint, 2 * pairs.length, ?_, rfl, rfl, h.length_eq, ?_⟩
            · rw [parseResources, if_pos hname, hopcode, hvalue]
            · rw [pairsOf, if_pos hname, hopcode, hvalue]
        | some value =>
        simp only [parseResources, pairsOf, if_pos hname, hopcode, hvalue]
        by_cases hpositive : opcode > 0
        · simp only [if_pos hpositive]
          cases room with
          | zero =>
              -- the row is full, and the rest of the nodes is not looked at
              have hfull : ¬ 2 * pairs.length < maxParam - 1 := by
                rw [maxParam]
                omega
              rw [if_neg hfull]
              refine ⟨.finished, hint, 2 * pairs.length, rfl, rfl, rfl, h.length_eq, rfl, ?_, ?_⟩
              · rw [List.append_nil]
              · rw [List.append_nil]
                exact h
          | succ room =>
              have hfits : 2 * pairs.length < maxParam - 1 := by
                rw [maxParam]
                omega
              obtain ⟨first, second, hfirst, hsecond, htype, hparams, hfilled⟩ :=
                h.setParam (by omega) hpositive value
              have hlength : 2 * (pairs ++ [(opcode, value)]).length = 2 * pairs.length + 2 := by
                rw [List.length_append, List.length_singleton]
                omega
              have hroom : (pairs ++ [(opcode, value)]).length + room = 15 := by
                rw [List.length_append, List.length_singleton]
                omega
              obtain ⟨ended, later, count, hrest, hltype, hlparams, hllength, hmeaning⟩ := ih hfilled hroom
              rw [hlength] at hrest
              refine ⟨ended, later, count, ?_, hltype.trans htype, hlparams.trans hparams, hllength, ?_⟩
              · simp [if_pos hfits, hfirst, hsecond, hrest]
              · cases hpairs : pairsOf nodes room with
                | none =>
                    rw [hpairs] at hmeaning
                    simpa only [hpairs, Option.map_none] using hmeaning
                | some rest =>
                    rw [hpairs] at hmeaning
                    simpa only [hpairs, Option.map_some, List.append_assoc, List.singleton_append] using hmeaning
        · simp only [if_neg hpositive]
          exact ih h hroom
      · simp only [parseResources, pairsOf, if_neg hname]
        exact ih h hroom

/-! ### Filling the table -/

/-- An element of one list changes with the element at its place in the other. -/
theorem forall₂_set {α β : Type} {R : α → β → Prop} {list : List α} {before after : List β} {b b' : β}
    (h : List.Forall₂ R list (before ++ b :: after)) {a : α} (ha : R a b') :
    (∃ old, list[before.length]? = some old ∧ R old b) ∧ before.length < list.length ∧
      List.Forall₂ R (list.set before.length a) (before ++ b' :: after) := by
  induction before generalizing list with
  | nil =>
      cases h with
      | cons hold hrest => exact ⟨⟨_, rfl, hold⟩, Nat.succ_pos _, .cons ha hrest⟩
  | cons head before ih =>
      cases h with
      | cons hhead hrest =>
          obtain ⟨hold, hlt, hset⟩ := ih hrest
          exact ⟨hold, Nat.succ_lt_succ hlt, .cons hhead hset⟩

theorem padding_succ {entries : List HintEntry} (hroom : entries.length < maxHint) :
    List.replicate (maxHint - entries.length) ((0, []) : HintEntry) =
      (0, []) :: List.replicate (maxHint - (entries.length + 1)) (0, []) := by
  have hcount : maxHint - entries.length = maxHint - (entries.length + 1) + 1 := by omega
  rw [hcount, List.replicate_succ]

namespace PowerhintTable.Represents

variable {table : PowerhintTable} {entries : List HintEntry}

/-- The row that comes next is empty. -/
theorem row (h : table.Represents entries) (hroom : entries.length < maxHint) :
    ∃ before, table.powerhint[table.hintCount]? = some before ∧ before.Holds (0, []) := by
  have hrows := h.rows
  rw [padding_succ hroom] at hrows
  have hnothing : PowerhintTable.noHint.Holds (0, []) := PerflockParam.holds_nothing rfl rfl rfl
  obtain ⟨hold, -, -⟩ := forall₂_set hrows hnothing
  rw [h.hintCount_eq]
  exact hold

theorem setHint (h : table.Represents entries) (hroom : entries.length < maxHint) {hint : PerflockParam}
    {entry : HintEntry} (hholds : hint.Holds entry) :
    ∃ later, table.setHint table.hintCount hint = some later ∧ later.hintCount = table.hintCount ∧
      List.Forall₂ PerflockParam.Holds later.powerhint
        (entries ++ entry :: List.replicate (maxHint - (entries.length + 1)) (0, [])) := by
  have hrows := h.rows
  rw [padding_succ hroom] at hrows
  obtain ⟨-, hlt, hset⟩ := forall₂_set hrows hholds
  rw [← h.hintCount_eq] at hlt hset
  refine ⟨{ table with powerhint := table.powerhint.set table.hintCount hint }, if_pos hlt, rfl, ?_⟩
  rw [h.hintCount_eq]
  exact h.hintCount_eq ▸ hset

/-- The next row is taken. -/
theorem append (h : table.Represents entries) (hroom : entries.length < maxHint) {later : PowerhintTable}
    {entry : HintEntry} (hcount : later.hintCount = table.hintCount)
    (hrows : List.Forall₂ PerflockParam.Holds later.powerhint
      (entries ++ entry :: List.replicate (maxHint - (entries.length + 1)) (0, []))) :
    { later with hintCount := later.hintCount + 1 : PowerhintTable }.Represents (entries ++ [entry]) := by
  refine ⟨?_, ?_, ?_⟩
  · rw [hcount, h.hintCount_eq, List.length_append, List.length_singleton]
  · rw [List.length_append, List.length_singleton]
    exact hroom
  · rw [List.length_append, List.length_singleton, List.append_assoc, List.singleton_append]
    exact hrows

end PowerhintTable.Represents

section Table

variable {table : PowerhintTable} {entries : List HintEntry}

/-- No store leaves the table; a hint that is read takes the next row, and one that cannot be read leaves the table
with the hints that it holds. -/
theorem parseHint_spec (h : table.Represents entries) (hroom : entries.length < maxHint) (node : XmlNode) (type : Int) :
    ∃ ended later laterType, parseHint node table type = some (ended, later, laterType) ∧
      match entryOf node type with
      | none => ended = .failed ∧ later.Represents entries
      | some entry => ended = .finished ∧ laterType = entry.1 ∧
          { later with hintCount := later.hintCount + 1 : PowerhintTable }.Represents (entries ++ [entry]) := by
  rw [parseHint, entryOf]
  cases htype : readProp node typeName type with
  | none => exact ⟨.failed, table, type, rfl, rfl, h⟩
  | some own =>
      obtain ⟨before, hbefore, hnothing⟩ := h.row hroom
      have hfilled : Filled before [] := ⟨Nat.zero_le 15, hnothing.length_eq, rfl, fun pair hmem => (by cases hmem)⟩
      obtain ⟨ended, hint, count, hparse, hinttype, hintparams, hintlength, hmeaning⟩ :=
        parseResources_spec node.children hfilled (Nat.zero_add 15)
      rw [List.length_nil, Nat.mul_zero] at hparse
      simp only [hbefore, Option.bind_eq_bind, Option.bind_some, hparse]
      cases hpairs : pairsOf node.children 15 with
      | none =>
          rw [hpairs] at hmeaning
          have hholds : hint.Holds (0, []) := PerflockParam.holds_nothing (hinttype.trans hnothing.type_eq)
            (hintparams.trans hnothing.numParams_eq) hintlength
          obtain ⟨later, hset, hcount, hrows⟩ := h.setHint hroom hholds
          refine ⟨.failed, later, own, ?_, rfl, hcount.trans h.hintCount_eq, h.length_le, ?_⟩
          · rw [show ended = .failed from hmeaning]
            simp [hset]
          · rw [padding_succ hroom]
            exact hrows
      | some pairs =>
          rw [hpairs] at hmeaning
          obtain ⟨hended, hnum, hfill⟩ := hmeaning
          rw [List.nil_append] at hnum hfill
          have hholds : ({ hint with type := own, numParams := count } : PerflockParam).Holds (own, pairs) :=
            ⟨rfl, hnum, hfill.length_le, hfill.length_eq, by rw [hnum]; exact hfill.params_eq, hfill.positive⟩
          obtain ⟨later, hset, hcount, hrows⟩ := h.setHint hroom hholds
          refine ⟨.finished, later, own, ?_, rfl, rfl, h.append hroom hcount hrows⟩
          rw [hended]
          simp [hset]

theorem take_room {α : Type} (before rest : List α) (entry : α) {count : Nat} (hroom : before.length < count) :
    before ++ (entry :: rest).take (count - before.length) =
      before ++ [entry] ++ rest.take (count - (before ++ [entry]).length) := by
  have hcount : count - before.length = count - (before ++ [entry]).length + 1 := by
    rw [List.length_append, List.length_singleton]
    omega
  rw [hcount, List.take_succ_cons, List.append_assoc, List.singleton_append]

/-- The loop appends what the nodes say, as far as there is room. -/
theorem parseHints_spec (nodes : List XmlNode) (h : table.Represents entries) (type : Int) :
    ∃ ended later, parseHints nodes table type = some (ended, later) ∧
      later.Represents (entries ++ (entriesOf nodes type).take (maxHint - entries.length)) := by
  induction nodes generalizing table entries type with
  | nil => exact ⟨.finished, table, rfl, by simpa [entriesOf] using h⟩
  | cons node nodes ih =>
      rw [parseHints, entriesOf]
      cases helement : node.isElement with
      | false => exact ih h type
      | true =>
      by_cases hfull : table.hintCount = maxHint
      · refine ⟨.finished, table, by simp [hfull], ?_⟩
        rw [h.hintCount_eq] at hfull
        rw [hfull, Nat.sub_self, List.take_zero, List.append_nil]
        exact h
      · have hroom : entries.length < maxHint :=
          Nat.lt_of_le_of_ne h.length_le fun heq => hfull (h.hintCount_eq.trans heq)
        by_cases hname : node.name = hintName
        · obtain ⟨ended, later, laterType, hparse, hmeaning⟩ := parseHint_spec h hroom node type
          simp only [Bool.not_true, Bool.false_eq_true, if_false, if_neg hfull, if_pos hname, hparse,
            Option.bind_eq_bind, Option.bind_some]
          cases hentry : entryOf node type with
          | none =>
              rw [hentry] at hmeaning
              rw [hmeaning.1]
              refine ⟨.failed, later, rfl, ?_⟩
              rw [List.take_nil, List.append_nil]
              exact hmeaning.2
          | some entry =>
              rw [hentry] at hmeaning
              obtain ⟨hended, htype, hlater⟩ := hmeaning
              obtain ⟨ended', final, hrest, hfinal⟩ := ih hlater entry.1
              rw [hended, htype]
              refine ⟨ended', final, hrest, ?_⟩
              rw [take_room entries _ entry hroom]
              exact hfinal
        · obtain ⟨hold, hrow, hnothing⟩ := h.row hroom
          have hrows := h.rows
          rw [padding_succ hroom] at hrows
          obtain ⟨ended, final, hrest, hfinal⟩ := ih (h.append hroom rfl hrows) type
          simp only [Bool.not_true, Bool.false_eq_true, if_false, if_neg hfull, if_neg hname]
          refine ⟨ended, final, hrest, ?_⟩
          rw [take_room entries _ _ hroom]
          exact hfinal

/-- Reading a document appends what it says to the table, as far as there is room. -/
theorem parsePowerhintXML_spec (xml : PowerhintXml) (h : table.Represents entries) :
    ∃ r later, parsePowerhintXML xml table = some (r, later) ∧
      later.Represents (entries ++ xml.entries.take (maxHint - entries.length)) := by
  have hsame : table.Represents (entries ++ List.take (maxHint - entries.length) []) := by
    rw [List.take_nil, List.append_nil]
    exact h
  cases xml with
  | missing => exact ⟨-1, table, rfl, hsame⟩
  | unparsed => exact ⟨-1, table, rfl, hsame⟩
  | empty => exact ⟨-1, table, rfl, hsame⟩
  | root element =>
      rw [parsePowerhintXML, PowerhintXml.entries]
      by_cases hname : element.name ≠ powerhintName
      · rw [if_pos hname, if_pos hname]
        exact ⟨-1, table, rfl, hsame⟩
      · rw [if_neg hname, if_neg hname]
        obtain ⟨ended, later, hparse, hlater⟩ := parseHints_spec element.children h 0
        rw [hparse]
        exact ⟨_, later, rfl, hlater⟩

end Table

/-! ### Calls for hints -/

/-- The first hint has parameters, so the document is not read again. -/
def firstHasParams : List HintEntry → Bool
  | [] => false
  | entry :: _ => !entry.2.isEmpty

/-- The hints after a call. -/
def nextEntries (entries : List HintEntry) (hintId : Int) (xml : PowerhintXml) : List HintEntry :=
  if hintId = 0 then entries
  else if firstHasParams entries then entries
  else entries ++ xml.entries.take (maxHint - entries.length)

/-- The first hint of a type; there is none of type zero. -/
def lookupHint (entries : List HintEntry) (hintId : Int) : Option HintEntry :=
  if hintId = 0 then none else entries.find? fun entry => entry.1 = hintId

/-- A row that is returned holds the hint that is looked for, and none is returned if there is none. -/
def Answers (answer : Option PerflockParam) (entry : Option HintEntry) : Prop :=
  Option.Rel PerflockParam.Holds answer entry

theorem answers_find {rows : List PerflockParam} {entries : List HintEntry}
    (h : List.Forall₂ PerflockParam.Holds rows entries) (hintId : Int) :
    Answers (rows.find? fun hint => hint.type = hintId) (entries.find? fun entry => entry.1 = hintId) := by
  induction h with
  | nil => exact .none
  | @cons hint entry rows entries hhead _ ih =>
      by_cases htype : entry.1 = hintId
      · rw [List.find?_cons_of_pos (by simpa [hhead.type_eq] using htype),
          List.find?_cons_of_pos (by simpa using htype)]
        exact .some hhead
      · rw [List.find?_cons_of_neg (by simpa [hhead.type_eq] using htype),
          List.find?_cons_of_neg (by simpa using htype)]
        exact ih

theorem find_padding (entries : List HintEntry) {hintId : Int} (hhint : hintId ≠ 0) (count : Nat) :
    (entries ++ List.replicate count (0, [])).find? (fun entry => entry.1 = hintId) =
      entries.find? fun entry => entry.1 = hintId := by
  have hnone : (List.replicate count ((0, []) : HintEntry)).find? (fun entry => entry.1 = hintId) = none := by
    rw [List.find?_eq_none]
    intro entry hmem
    rw [List.eq_of_mem_replicate hmem]
    simpa using Ne.symm hhint
  rw [List.find?_append, hnone, Option.or_none]

section Calls

variable {table : PowerhintTable} {entries : List HintEntry}

/-- The first row has parameters if and only if the first hint has. -/
theorem PowerhintTable.Represents.first (h : table.Represents entries) :
    ∃ first, table.powerhint[0]? = some first ∧ (first.numParams = 0 ↔ firstHasParams entries = false) := by
  have hrows := h.rows
  cases entries with
  | nil =>
      cases hpowerhint : table.powerhint with
      | nil =>
          rw [hpowerhint] at hrows
          cases hrows
      | cons first rest =>
          rw [hpowerhint] at hrows
          cases hrows with
          | cons hfirst _ => exact ⟨first, rfl, iff_of_true hfirst.numParams_eq rfl⟩
  | cons entry entries =>
      cases hpowerhint : table.powerhint with
      | nil =>
          rw [hpowerhint] at hrows
          cases hrows
      | cons first rest =>
          rw [hpowerhint] at hrows
          cases hrows with
          | cons hfirst _ =>
              refine ⟨first, rfl, ?_⟩
              rw [hfirst.numParams_eq, firstHasParams, Bool.not_eq_false', List.isEmpty_iff, ← List.length_eq_zero_iff]
              omega

theorem getPowerhint_spec (h : table.Represents entries) (hintId : Int) (xml : PowerhintXml) :
    ∃ answer later, getPowerhint hintId xml table = some (answer, later) ∧
      later.Represents (nextEntries entries hintId xml) ∧
      Answers answer (lookupHint (nextEntries entries hintId xml) hintId) := by
  rw [getPowerhint, nextEntries, lookupHint]
  by_cases hzero : hintId = 0
  · rw [if_pos hzero, if_pos hzero, if_pos hzero]
    exact ⟨none, table, rfl, h, .none⟩
  · rw [if_neg hzero, if_neg hzero, if_neg hzero]
    have hfound : ∀ {later : PowerhintTable} {entries : List HintEntry}, later.Represents entries →
        Answers ((later.powerhint.take maxHint).find? fun hint => hint.type = hintId)
          (entries.find? fun entry => entry.1 = hintId) := by
      intro later entries hlater
      have hlength : later.powerhint.length ≤ maxHint := by
        have hle := hlater.length_le
        rw [hlater.rows.length_eq, List.length_append, List.length_replicate]
        omega
      rw [List.take_of_length_le hlength, ← find_padding entries hzero (maxHint - entries.length)]
      exact answers_find hlater.rows hintId
    obtain ⟨first, hfirst, hparams⟩ := h.first
    rw [hfirst]
    cases hhas : firstHasParams entries with
    | true =>
        have hskip : first.numParams ≠ 0 := fun heq => by
          rw [hparams.mp heq] at hhas
          cases hhas
        simp only [Option.bind_eq_bind, Option.bind_some, if_neg hskip, if_true]
        exact ⟨_, table, rfl, h, hfound h⟩
    | false =>
        obtain ⟨r, later, hparse, hlater⟩ := parsePowerhintXML_spec xml h
        simp only [Option.bind_eq_bind, Option.bind_some, if_pos (hparams.mpr hhas), hparse, Option.map_some,
          Bool.false_eq_true, if_false]
        exact ⟨_, later, rfl, hlater, hfound hlater⟩

/-- Calls one after another, each with the document that it would find. -/
def getPowerhints : List (Int × PowerhintXml) → PowerhintTable → Option (List (Option PerflockParam) × PowerhintTable)
  | [], table => some ([], table)
  | (hintId, xml) :: calls, table => do
      let (answer, table) ← getPowerhint hintId xml table
      let (answers, table) ← getPowerhints calls table
      some (answer :: answers, table)

/-- The hints that the calls look for, in what has been read until then. -/
def lookups : List (Int × PowerhintXml) → List HintEntry → List (Option HintEntry)
  | [], _ => []
  | (hintId, xml) :: calls, entries =>
      lookupHint (nextEntries entries hintId xml) hintId :: lookups calls (nextEntries entries hintId xml)

theorem getPowerhints_spec (calls : List (Int × PowerhintXml)) (h : table.Represents entries) :
    ∃ answers later, getPowerhints calls table = some (answers, later) ∧
      List.Forall₂ Answers answers (lookups calls entries) := by
  induction calls generalizing table entries with
  | nil => exact ⟨[], table, rfl, .nil⟩
  | cons call calls ih =>
      obtain ⟨hintId, xml⟩ := call
      obtain ⟨answer, later, hcall, hlater, hanswer⟩ := getPowerhint_spec h hintId xml
      obtain ⟨answers, final, hcalls, hanswers⟩ := ih hlater
      refine ⟨answer :: answers, final, ?_, .cons hanswer hanswers⟩
      simp [getPowerhints, hcall, hcalls]

/-- Whatever documents the calls find, no store leaves the table, and each call returns the first hint of its type in
what was read: at most 15 resources with their values, as the document has them. -/
theorem getPowerhints_answered (calls : List (Int × PowerhintXml)) :
    ∃ answers table, getPowerhints calls .start = some (answers, table) ∧
      List.Forall₂ Answers answers (lookups calls []) :=
  getPowerhints_spec calls PowerhintTable.start_represents

/-- What was read is the document, perhaps with parts of it once more behind. -/
def ReadFrom (xml : PowerhintXml) (entries : List HintEntry) : Prop :=
  entries = [] ∨ xml.entries.take maxHint <+: entries ∧ ∀ entry ∈ entries, entry ∈ xml.entries.take maxHint

theorem ReadFrom.nextEntries {xml : PowerhintXml} (h : ReadFrom xml entries) (hintId : Int) :
    ReadFrom xml (nextEntries entries hintId xml) ∧
      (hintId ≠ 0 → xml.entries.take maxHint <+: nextEntries entries hintId xml ∧
        ∀ entry ∈ nextEntries entries hintId xml, entry ∈ xml.entries.take maxHint) := by
  rw [Power.nextEntries]
  by_cases hzero : hintId = 0
  · rw [if_pos hzero]
    exact ⟨h, fun hne => absurd hzero hne⟩
  · rw [if_neg hzero]
    have hread : xml.entries.take maxHint <+:
          (if firstHasParams entries then entries
            else entries ++ xml.entries.take (maxHint - entries.length)) ∧
        ∀ entry ∈ (if firstHasParams entries then entries
            else entries ++ xml.entries.take (maxHint - entries.length)), entry ∈ xml.entries.take maxHint := by
      obtain hempty | ⟨hstart, hmem⟩ := h
      · rw [hempty]
        exact ⟨List.prefix_rfl, fun entry hentry => hentry⟩
      · split_ifs
        · exact ⟨hstart, hmem⟩
        · refine ⟨hstart.trans (List.prefix_append ..), ?_⟩
          intro entry hentry
          obtain hentry | hentry := List.mem_append.mp hentry
          · exact hmem entry hentry
          · exact List.take_subset_take_left _ (Nat.sub_le ..) hentry
    exact ⟨Or.inr hread, fun _ => hread⟩

/-- More copies of what was read do not change what is found. -/
theorem find_of_prefix {α : Type} {found all : List α} {p : α → Bool} (hstart : found <+: all)
    (hmem : ∀ a ∈ all, a ∈ found) : all.find? p = found.find? p := by
  obtain ⟨rest, hall⟩ := hstart
  rw [← hall, List.find?_append]
  cases hfind : found.find? p with
  | some a => rfl
  | none =>
      rw [Option.none_or, List.find?_eq_none]
      intro a ha
      apply List.find?_eq_none.mp hfind
      exact hmem a (hall ▸ List.mem_append_right _ ha)

theorem lookups_of_readFrom {xml : PowerhintXml} (h : ReadFrom xml entries) (hintIds : List Int) :
    lookups (hintIds.map fun hintId => (hintId, xml)) entries =
      hintIds.map fun hintId => lookupHint (xml.entries.take maxHint) hintId := by
  induction hintIds generalizing entries with
  | nil => rfl
  | cons hintId hintIds ih =>
      obtain ⟨hnext, hread⟩ := h.nextEntries hintId
      rw [List.map_cons, List.map_cons, lookups, ih hnext]
      congr 1
      rw [lookupHint, lookupHint]
      by_cases hzero : hintId = 0
      · rw [if_pos hzero, if_pos hzero]
      · obtain ⟨hstart, hmem⟩ := hread hzero
        rw [if_neg hzero, if_neg hzero, find_of_prefix hstart hmem]

/-- As long as the document stays the same, each call returns the first hint of its type among the first six elements
of the document, however often the document is read. -/
theorem getPowerhints_sameDocument (xml : PowerhintXml) (hintIds : List Int) :
    ∃ answers table, getPowerhints (hintIds.map fun hintId => (hintId, xml)) .start = some (answers, table) ∧
      List.Forall₂ Answers answers (hintIds.map fun hintId => lookupHint (xml.entries.take maxHint) hintId) := by
  rw [← lookups_of_readFrom (Or.inl rfl)]
  exact getPowerhints_spec _ PowerhintTable.start_represents

end Calls

end Penrose.Power
