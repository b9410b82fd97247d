import Longhand.Contract.Pattern.Scan

/-!
Whether a text is a regular expression that can be used. The grammar is that of backtracking
matchers: groups with names and look-around, classes, escapes and counted repetition. Nothing is
matched here; the widths that are kept serve the rule that a look-behind has one fixed width.
-/

namespace Longhand

namespace Pattern

/-- What a part is, as far as repetition asks. -/
inductive Part where
  /-- A place in the text: it cannot be repeated. -/
  | anchor
  | repeated
  | other
deriving DecidableEq

/-- Blanks, which mean nothing in a verbose expression outside classes. -/
def isLayout (c : Char) : Bool := c = ' ' || ('\t' ≤ c && c ≤ '\r')

/-- Goes past a remark, which ends with its line. -/
def skipRemark : (fuel : Nat) → Scan Unit
  | 0 => return
  | fuel + 1 => do
    match ← take with
    | none | some (.plain '\n') => return
    | _ => skipRemark fuel

/-- Goes past a remark in a group, which ends with the group. -/
def skipUntilClosed : (fuel : Nat) → Scan Unit
  | 0 => malformed
  | fuel + 1 => do
    match ← take with
    | none => malformed
    | some s => if s = .plain ')' then return else skipUntilClosed fuel

/-- The counts of a repetition by its mark, which was read. An opening brace may stand for
itself. -/
def copies (mark : Char) : Scan (Option (Nat × Option Nat)) :=
  match mark with
  | '*' => return some (0, none)
  | '+' => return some (1, none)
  | '?' => return some (0, some 1)
  | _ => braces

/-- Goes past the mark of greed after a repetition. -/
def skipGreed : Scan Unit := do
  if !(← accept '?') then
    let _ ← accept '+'
  modify ({ · with hasCopies := true })

mutual

/-- Branches, the first of the whole expression if `top`. -/
def branches : (fuel : Nat) → (verbose top : Bool) → Scan Width
  | 0, _, _ => malformed
  | fuel + 1, verbose, top => do
    let w ← sequence fuel verbose top none (.fixed 0) (.fixed 0)
    moreBranches fuel verbose top w

def moreBranches : (fuel : Nat) → (verbose top : Bool) → Width → Scan Width
  | 0, _, _, _ => malformed
  | fuel + 1, verbose, top, w => do
    if ← accept '|' then
      let s ← get
      let verbose := if top then s.flags.contains 'x' else verbose
      let v ← sequence fuel verbose false none (.fixed 0) (.fixed 0)
      moreBranches fuel verbose top (w.or v)
    else return w

/-- Parts one after another. The part before, if any, is `last` of a `width` that is not yet
counted in `before`. -/
def sequence : (fuel : Nat) → (verbose first : Bool) → (last : Option Part) →
    (before width : Width) → Scan Width
  | 0, _, _, _, _, _ => malformed
  | fuel + 1, verbose, first, last, before, width => do
    let next (part : Part) (w : Width) : Scan Width :=
      sequence fuel verbose first (some part) (before.followedBy width) w
    match ← peek with
    | none | some (.plain '|') | some (.plain ')') => return before.followedBy width
    | some .broken => malformed
    | some (.escaped c) =>
      advance
      if "AbBZ".toList.contains c then next .anchor (.fixed 0)
      else if Radix.isDigit 10 c then next .other (← numbered c)
      else if isClassLetter c then next .other (.fixed 1)
      else
        let _ ← codePoint c
        next .other (.fixed 1)
    | some (.plain c) =>
      advance
      if verbose && isLayout c then sequence fuel verbose first last before width
      else if verbose && c = '#' then
        skipRemark (← get).rest.length
        sequence fuel verbose first last before width
      else if c = '[' then
        characterClass
        next .other (.fixed 1)
      else if c = '^' || c = '$' then next .anchor (.fixed 0)
      else if c = '*' || c = '+' || c = '?' || c = '\x7b' then
        match ← copies c with
        | none => next .other (.fixed 1)
        | some (lo, hi) =>
          if last = some .other then
            skipGreed
            sequence fuel verbose first (some .repeated) before (width.times lo hi)
          else malformed
      else if c = '(' then
        if ← accept '?' then
          match ← take with
          | some (.plain d) =>
            if d = '#' then
              skipUntilClosed (← get).rest.length
              sequence fuel verbose first last before width
            else if isFlag d || d = '-' then
              match ← flagPart d with
              | .whole on =>
                if first && last.isNone then
                  modify fun s => { s with flags := on ++ s.flags }
                  let verbose := verbose || (← get).flags.contains 'x'
                  sequence fuel verbose first last before width
                else malformed
              | .group on off =>
                let inner := (verbose || on.contains 'x') && !off.contains 'x'
                next .other (← enclosed fuel inner)
            else next .other (← extension fuel verbose d)
          | _ => malformed
        else next .other (← capture fuel verbose none)
      else next .other (.fixed 1)

def enclosed : (fuel : Nat) → (verbose : Bool) → Scan Width
  | 0, _ => malformed
  | fuel + 1, verbose => do
    let w ← branches fuel verbose false
    expect ')'
    return w

/-- A numbered group after its opening, with its name if it has one. -/
def capture : (fuel : Nat) → (verbose : Bool) → Option String → Scan Width
  | 0, _, _ => malformed
  | fuel + 1, verbose, label => do
    let index ← groupCount
    match label with
    | some name =>
      if ((← get).names.lookup name).isSome then malformed
      modify fun s => { s with names := (name, index) :: s.names }
    | none => pure ()
    modify fun s => { s with widths := s.widths ++ [none] }
    let w ← enclosed fuel verbose
    modify fun s => { s with widths := s.widths.set (index - 1) (some w) }
    return w

/-- A group by the character after its question mark. -/
def extension : (fuel : Nat) → (verbose : Bool) → (c : Char) → Scan Width
  | 0, _, _ => malformed
  | fuel + 1, verbose, c => do
    match c with
    | ':' | '>' => enclosed fuel verbose
    | '=' | '!' =>
      let _ ← enclosed fuel verbose
      return .fixed 0
    | '<' =>
      if !(← accept '=') then expect '!'
      let outer := (← get).before
      let count ← groupCount
      modify fun s => { s with before := outer.or (some (count - 1)) }
      let w ← branches fuel verbose false
      modify fun s => { s with before := outer, isUneven := s.isUneven || !w.isFixed }
      expect ')'
      return .fixed 0
    | 'P' =>
      if ← accept '<' then
        let cs ← takeUntil '>'
        if isName cs then capture fuel verbose (some (String.ofList cs)) else malformed
      else
        expect '='
        let cs ← takeUntil ')'
        match (← get).names.lookup (String.ofList cs) with
        | some index => closedGroup index
        | none => malformed
    | '(' =>
      askAbout (← takeUntil ')')
      let yes ← sequence fuel verbose false none (.fixed 0) (.fixed 0)
      let no ← if ← accept '|' then sequence fuel verbose false none (.fixed 0) (.fixed 0)
        else pure (.fixed 0)
      expect ')'
      return yes.or no
    | _ => malformed

end

/-- Reads a whole expression, and judges what can be judged only at its end. Each step uses up a
symbol, and at most four steps lead from one to the next. -/
def whole : Scan Unit := do
  moveTo (← get).rest
  let _ ← branches (8 * (← get).rest.length + 8) false true
  let s ← get
  if s.flags.contains 'a' && s.flags.contains 'u' then throw (.unusable .alphabet)
  if !s.rest.isEmpty || s.asked.any (s.widths.length < ·) || s.isUneven
    || (s.flags.contains 't' && s.hasCopies)
  then malformed

/-- Fails for a text that is no regular expression, or not a usable one. -/
def check (text : String) : Except Defect Unit :=
  whole.run' { rest := symbols text.toList }

end Pattern

end Longhand
