import MergeGate.Pattern.Escape
import MergeGate.Text.Name

/-
  MergeGate/Pattern/Reader.lean
  =============================
  **Reading patterns.**  `Pattern.ofText?` gives the tree of a pattern with the modes of the whole, or
  the first fault found from left to right.  What can only be judged when the end is reached comes
  after that, in this order: contrary modes, a closing parenthesis too many, a condition on a group
  that does not exist, and lookbehinds of uneven width.

  Groups may be nested up to `depthLimit`.
-/

namespace MergeGate

namespace Pattern

open MergeGate.Text

/-! ### Sets -/

/-- The member of a set that a token begins. -/
def setMember (t : Token) : Reading SetItem := do
  match t with
  | .plain c => return .one c.toNat
  | .escaped c =>
    match ← setEscape c with
    | .code n => return .one n
    | .ofClass kind negated => return .ofClass kind negated
    | _ => failBack (.badEscape ['\\', c]) 2

/-- The range between two members. -/
def setRange (low high : SetItem) (shownLow shownHigh : List Char) : Reading SetItem := do
  let fault : Reading SetItem :=
    failBack (.badRange shownLow shownHigh) (shownLow.length + 1 + shownHigh.length)
  match low, high with
  | .one a, .one b => if b < a then fault else return .range a b
  | _, _ => fault

/-- Reads the members of a set up to its end; `items` is in reverse, `opened` is where the set
began. -/
def setItems (opened : Nat) : Nat → List SetItem → Reading (List SetItem)
  | 0, _ => failAt .unterminatedSet opened
  | n + 1, items => do
    match ← take with
    | none => failAt .unterminatedSet opened
    | some t =>
      if t = .plain ']' && !items.isEmpty then return items.reverse
      else
        let low ← setMember t
        if ← accept '-' then
          match ← take with
          | none => failAt .unterminatedSet opened
          | some u =>
            if u = .plain ']' then return (.one 45 :: low :: items).reverse
            else
              let high ← setMember u
              let range ← setRange low high t.chars u.chars
              setItems opened n (range :: items)
        else setItems opened n (low :: items)

/-- Reads a set after its opening bracket. -/
def readSet : Reading Node := do
  let opened := (← get).position - 1
  let negated ← accept '^'
  let items ← setItems opened ((← get).rest.length + 1) []
  match items.eraseDups with
  | [.one n] => return if negated then .notCode n else .code n
  | items => return .set negated items

/-! ### Repetition -/

/-- The first count that is too large. -/
def countCap : Nat := 4294967295

/-- How often something is repeated. -/
structure Bounds where
  least : Nat
  greatest : Option Nat

/-- The number of a row of digits; none if there are no digits. -/
def readCount (digits : List Char) : Reading (Option Nat) := do
  if digits.isEmpty then return none
  else if digitLimit < digits.length then failWhole (.countTooLong digits.length)
  else
    let n := numeralValue digits
    if countCap ≤ n then failWhole .countTooLarge else return some n

/-- Reads the bounds after an opening brace; none if the brace stands for itself. -/
def readBraces : Reading (Option Bounds) := do
  let opened ← get
  if (← peek) = some (.plain '\x7d') then return none
  else
    let low ← takeAll isAsciiDigit
    let high ← if ← accept ',' then takeAll isAsciiDigit else pure low
    if !(← accept '\x7d') then
      set opened
      return none
    else
      let least ← readCount low
      let greatest ← readCount high
      match least, greatest with
      | some a, some b =>
        if b < a then failAt .contraryBounds opened.position else return some ⟨a, some b⟩
      | a, b => return some ⟨a.getD 0, b⟩

/-- The bounds that a character stands for. -/
def readBounds (c : Char) : Reading (Option Bounds) := do
  if c = '?' then return some ⟨0, some 1⟩
  else if c = '*' then return some ⟨0, none⟩
  else if c = '+' then return some ⟨1, none⟩
  else readBraces

/-- What a part of a sequence is, as far as a repetition after it asks. -/
inductive Role where
  | anchor
  | repetition
  | other
  deriving DecidableEq, Repr

structure Part where
  node : Node
  role : Role := .other

/-- Whether a repetition is greedy, lazy or possessive. -/
def readGreed : Reading Greed := do
  if ← accept '?' then return .lazy
  else if ← accept '+' then return .possessive
  else return .greedy

/-- Repeats the last part of a sequence, which is in reverse; `opened` is where the repetition is
written. -/
def repeatLast (opened : Nat) (bounds : Bounds) (parts : List Part) : Reading (List Part) := do
  match parts with
  | [] => failAt .nothingToRepeat opened
  | p :: ps =>
    match p.role with
    | .anchor => failAt .nothingToRepeat opened
    | .repetition => failAt .multipleRepeat opened
    | .other =>
      let greed ← readGreed
      return ⟨.repeated bounds.least bounds.greatest greed p.node, .repetition⟩ :: ps

/-! ### Flags -/

/-- What a flag group switches: the whole pattern, or the part that follows in the group. -/
inductive Switches where
  | whole (on : List Mode)
  | part (on off : List Mode)

def flagFault (t : Token) (cause : Cause) : Cause :=
  match t with
  | .plain c => if isLetter c then .unknownFlag else cause
  | .escaped _ => cause

def modeOf? : Token → Option Mode
  | .plain c => Mode.ofLetter? c
  | .escaped _ => none

/-- Reads the flags that are switched off, up to the colon. -/
def flagsOff (on : List Mode) : Nat → List Mode → Mode → Reading Switches
  | 0, _, _ => failBack .missingColon
  | n + 1, off, m => do
    if m.choosesClasses then failBack .classFlagOff
    else
      let off := off ++ [m]
      match ← take with
      | none => failBack .missingColon
      | some t =>
        if t = .plain ':' then
          if off.contains .plain then failBack .wholeFlagOff 1
          else if on.any off.contains then failBack .flagOnAndOff 1
          else return .part on off
        else
          match modeOf? t with
          | some m => flagsOff on n off m
          | none => failBack (flagFault t .missingColon) t.chars.length

/-- Reads what follows the flags that are switched on, by the token that ended them. -/
def flagsEnd (on : List Mode) (ending : Char) : Reading Switches := do
  if ending = ')' then return .whole on
  else if on.contains .plain then failBack .wholeFlagOn 1
  else if ending = '-' then
    match ← take with
    | none => failBack .missingFlag
    | some t =>
      match modeOf? t with
      | some m => flagsOff on ((← get).rest.length + 1) [] m
      | none => failBack (flagFault t .missingFlag) t.chars.length
  else return .part on []

def flagsOn : Nat → List Mode → Mode → Reading Switches
  | 0, _, _ => failBack .missingFlagEnd
  | n + 1, on, m => do
    if m = .locale then failBack .localeFlag
    else
      let on := on ++ [m]
      if m.choosesClasses && on.any fun o => o.choosesClasses && o != m then failBack .contraryClassFlags
      else
        match ← take with
        | none => failBack .missingFlagEnd
        | some t =>
          if t = .plain ')' then flagsEnd on ')'
          else if t = .plain '-' then flagsEnd on '-'
          else if t = .plain ':' then flagsEnd on ':'
          else
            match modeOf? t with
            | some m => flagsOn n on m
            | none => failBack (flagFault t .missingFlagEnd) t.chars.length

/-- Reads flags that begin with a mode, or with a minus sign if there is none. -/
def readFlags (first : Option Mode) : Reading Switches := do
  match first with
  | some m => flagsOn ((← get).rest.length + 1) [] m
  | none => flagsEnd [] '-'

/-! ### Groups -/

/-- What stands after an opening parenthesis. -/
inductive GroupKind where
  | capturing (name : Option (List Char))
  | plain
  | atomic
  | scoped (on off : List Mode)
  | ahead (negated : Bool)
  | behind (negated : Bool)
  | conditional (index : Nat)
  /-- A group without content that is a part by itself. -/
  | reference (index : Nat) (width : Width)
  /-- A group that is no part of the pattern. -/
  | remark
  /-- Flags for the whole pattern. -/
  | whole (on : List Mode)

/-- The index of a closed group by its name. -/
def namedGroup (name : List Char) : Reading (Nat × Width) := do
  let s ← get
  match s.names.lookup name with
  | none => failBack (.unknownGroupName name) (name.length + 1)
  | some index =>
    match s.closedWidth? index with
    | none => failBack .openGroup (name.length + 1)
    | some width =>
      checkLookbehind index
      return (index, width)

/-- A name that may be a group's. -/
def checkName (name : List Char) : Reading Unit :=
  if isName name then return () else failBack (.badGroupName name) (name.length + 1)

/-- Reads the kind of a group after `(?P`. -/
def namedKind : Reading GroupKind := do
  if ← accept '<' then
    let name ← takeName '>' "group name"
    checkName name
    return .capturing (some name)
  else if ← accept '=' then
    let name ← takeName ')' "group name"
    checkName name
    let (index, width) ← namedGroup name
    return .reference index width
  else
    match ← take with
    | none => failBack .unexpectedEnd
    | some t => failBack (.unknownExtension ('P' :: t.chars)) (t.chars.length + 2)

/-- The first number that no group can have. -/
def groupCap : Nat := 1073741823

/-- Reads the number of the group that a condition asks for, which may not exist yet. -/
def numberedGroup (name : List Char) : Reading Nat := do
  match readInteger 10 name with
  | .ok (.ofNat index) =>
    if index = 0 then failBack .zeroGroup (name.length + 1)
    else if groupCap ≤ index then failBack (.unknownGroup index) (name.length + 1)
    else
      let s ← get
      if (s.asked.lookup index).isNone then
        set { s with asked := s.asked ++ [(index, s.position - name.length - 1)] }
      return index
  | _ => failBack (.badGroupName name) (name.length + 1)

/-- Reads the condition after `(?(`. -/
def conditionKind : Reading GroupKind := do
  let name ← takeName ')' "group name"
  let index ←
    if isName name then
      match (← get).names.lookup name with
      | some index => pure index
      | none => failBack (.unknownGroupName name) (name.length + 1)
    else numberedGroup name
  checkLookbehind index
  return .conditional index

/-- Reads the kind of a group after its parenthesis, which stands at `opened`. -/
def groupKind (opened : Nat) : Reading GroupKind := do
  if !(← accept '?') then return .capturing none
  else
    match ← take with
    | none => failBack .unexpectedEnd
    | some t =>
      match t with
      | .plain 'P' => namedKind
      | .plain ':' => return .plain
      | .plain '#' =>
        if ← skipPast ')' ((← get).rest.length + 1) then return .remark else failAt .unterminatedRemark opened
      | .plain '=' => return .ahead false
      | .plain '!' => return .ahead true
      | .plain '<' =>
        match ← take with
        | none => failBack .unexpectedEnd
        | some (.plain '=') => return .behind false
        | some (.plain '!') => return .behind true
        | some u => failBack (.unknownExtension ('<' :: u.chars)) (u.chars.length + 2)
      | .plain '(' => conditionKind
      | .plain '>' => return .atomic
      | t =>
        if t = .plain '-' || (modeOf? t).isSome then
          match ← readFlags (modeOf? t) with
          | .whole on => return .whole on
          | .part on off => return .scoped on off
        else failBack (.unknownExtension t.chars) (t.chars.length + 1)

/-- Takes the closing parenthesis of the group that was opened at a position. -/
def closeParenthesis (opened : Nat) : Reading Unit := do
  if !(← accept ')') then failAt .unterminatedGroup opened

/-- Whether blanks and remarks are skipped in a group. -/
def isSpacedIn (spaced : Bool) (on off : List Mode) : Bool :=
  (spaced || on.contains .spaced) && !off.contains .spaced

/-! ### Sequences and alternatives -/

/-- How deep groups may be nested, counting a condition half. -/
def depthLimit : Nat := 980

/-- Whether blanks and remarks are skipped by the modes of the whole pattern. -/
def Scan.isSpaced (s : Scan) : Bool := s.modes.contains .spaced

/-- The blanks that are skipped between the parts of a spaced pattern. -/
def isSpacer (c : Char) : Bool := c == ' ' || (9 ≤ c.toNat && c.toNat ≤ 13)

def escapeNode (e : Escape) : Reading Part := do
  match e with
  | .code n => return ⟨.code n, .other⟩
  | .ofClass kind negated => return ⟨.set false [.ofClass kind negated], .other⟩
  | .anchor a => return ⟨.anchor a, .anchor⟩
  | .reference index => return ⟨.reference index (((← get).closedWidth? index).getD ⟨0, 0⟩), .other⟩

/-- Remembers how many groups there are while a lookbehind is read. -/
def insideLookbehind {α : Type} (read : Reading α) : Reading α := do
  let outer := (← get).outerGroups
  modify fun s => { s with outerGroups := some (outer.getD s.groupCount) }
  let a ← read
  modify fun s => { s with outerGroups := outer }
  return a

mutual

/-- Reads alternatives up to a closing parenthesis or the end; `depth` counts the groups around, and
outside of all groups the modes of the whole pattern decide from the second alternative on. -/
def alternatives : Nat → Nat → Bool → List Node → Reading Node
  | 0, _, _, _ => failWhole .tooDeep
  | n + 1, depth, spaced, before => do
    if depthLimit < depth then failWhole .tooDeep
    else
      let node ← sequence n depth spaced (depth == 0 && before.isEmpty) []
      if ← accept '|' then
        let s ← get
        let spaced := if depth = 0 then s.isSpaced else spaced
        alternatives n depth spaced (before ++ [node])
      else return Node.altAll (before ++ [node])

/-- Reads the parts of a sequence; `parts` is in reverse, and `leading` allows modes for the whole
pattern. -/
def sequence : Nat → Nat → Bool → Bool → List Part → Reading Node
  | 0, _, _, _, _ => failWhole .tooDeep
  | n + 1, depth, spaced, leading, parts => do
    match ← peek with
    | none | some (.plain '|') | some (.plain ')') => return Node.catAll (parts.reverse.map Part.node)
    | some t =>
      let opened := (← get).position
      let _ ← take
      match t with
      | .escaped c => sequence n depth spaced leading ((← escapeNode (← escape c)) :: parts)
      | .plain c =>
        if spaced && isSpacer c then sequence n depth spaced leading parts
        else if spaced && c == '#' then
          let _ ← skipPast '\n' ((← get).rest.length + 1)
          sequence n depth spaced leading parts
        else if c = '[' then sequence n depth spaced leading (⟨← readSet, .other⟩ :: parts)
        else if c = '*' || c = '+' || c = '?' || c = '\x7b' then
          match ← readBounds c with
          | none => sequence n depth spaced leading (⟨.code c.toNat, .other⟩ :: parts)
          | some bounds => sequence n depth spaced leading (← repeatLast opened bounds parts)
        else if c = '.' then sequence n depth spaced leading (⟨.any, .other⟩ :: parts)
        else if c = '^' then sequence n depth spaced leading (⟨.anchor .lineStart, .anchor⟩ :: parts)
        else if c = '$' then sequence n depth spaced leading (⟨.anchor .lineEnd, .anchor⟩ :: parts)
        else if c = '(' then
          match ← groupKind opened with
          | .remark => sequence n depth spaced leading parts
          | .whole on =>
            modify fun s => { s with modes := s.modes ++ on }
            if !leading || !parts.isEmpty then failAt .lateFlags opened
            else
              let s ← get
              sequence n depth s.isSpaced leading parts
          | .reference index width => sequence n depth spaced leading (⟨.reference index width, .other⟩ :: parts)
          | .conditional index =>
            let node ← branches n depth spaced opened index
            sequence n depth spaced leading (⟨node, .other⟩ :: parts)
          | kind =>
            let node ← content n depth spaced opened kind
            sequence n depth spaced leading (⟨node, .other⟩ :: parts)
        else sequence n depth spaced leading (⟨.code c.toNat, .other⟩ :: parts)

/-- Reads the one or two branches of a condition. -/
def branches : Nat → Nat → Bool → Nat → Nat → Reading Node
  | 0, _, _, _, _ => failWhole .tooDeep
  | n + 1, depth, spaced, opened, index => do
    if depthLimit < depth + 1 then failWhole .tooDeep
    else
      let yes ← sequence n (depth + 1) spaced false []
      let no ←
        if ← accept '|' then
          let no ← sequence n (depth + 1) spaced false []
          if (← peek) = some (.plain '|') then failBack .threeBranches else pure no
        else pure .empty
      closeParenthesis opened
      return .conditional index yes no

/-- Reads the content of a group up to its closing parenthesis. -/
def content : Nat → Nat → Bool → Nat → GroupKind → Reading Node
  | 0, _, _, _, _ => failWhole .tooDeep
  | n + 1, depth, spaced, opened, kind => do
    match kind with
    | .ahead negated =>
      let body ← alternatives n (depth + 2) spaced []
      closeParenthesis opened
      return .ahead negated body
    | .behind negated =>
      let body ← insideLookbehind (alternatives n (depth + 2) spaced [])
      closeParenthesis opened
      return .behind body.width negated body
    | .capturing name =>
      let index ← openGroup name
      let body ← alternatives n (depth + 2) spaced []
      closeParenthesis opened
      closeGroup index body.width
      return .group index body
    | .scoped on off =>
      let body ← alternatives n (depth + 2) (isSpacedIn spaced on off) []
      closeParenthesis opened
      return .scoped on off body
    | .atomic =>
      let body ← alternatives n (depth + 2) spaced []
      closeParenthesis opened
      return .atomic body
    | _ =>
      let body ← alternatives n (depth + 2) spaced []
      closeParenthesis opened
      return body

end

/-! ### Whole patterns -/

def lookbehindCap : Nat := 4294967295

/-- What keeps a tree from being matched, looking from left to right and from outside to inside;
`plain` forbids repetition. -/
def Node.fault? (plain : Bool) : Node → Option Cause
  | .cat a b | .alt a b | .conditional _ a b => (a.fault? plain).or (b.fault? plain)
  | .group _ body | .scoped _ _ body | .atomic body | .ahead _ body => body.fault? plain
  | .behind width _ body =>
    if lookbehindCap < width.least then some .longLookbehind
    else if width.least ≠ width.greatest then some .unevenLookbehind
    else body.fault? plain
  | .repeated _ _ greed body => if plain then some (.unsupportedRepeat greed) else body.fault? plain
  | _ => none

end Pattern

/-- A pattern: its tree, and the modes that hold in all of it. -/
structure Pattern where
  node : Pattern.Node
  modes : Pattern.Modes

namespace Pattern

/-- The pattern of a tree and what was learnt while it was read. -/
def finish (node : Node) (s : Scan) : Except Fault Pattern :=
  if s.modes.contains .ascii && s.modes.contains .unicode then .error ⟨.contraryModes, none⟩
  else if !s.rest.isEmpty then .error ⟨.unbalanced, some s.position⟩
  else
    match s.asked.find? fun a => s.groupCount < a.1 with
    | some (index, position) => .error ⟨.unknownGroup index, some position⟩
    | none =>
      match node.fault? (s.modes.contains .plain) with
      | some cause => .error ⟨cause, none⟩
      | none => .ok ⟨node, Modes.scoped {} s.modes []⟩

def ofText (cs : List Char) : Except Fault Pattern :=
  let (tokens, dangling) := tokensOf cs
  if tokens.isEmpty && dangling then .error ⟨.escapeAtEnd, some 0⟩
  else
    match (alternatives (3 * cs.length + 3) 0 false []).run { rest := tokens, dangling := dangling } with
    | .error fault => .error fault
    | .ok (node, s) => finish node s

end Pattern

end MergeGate
