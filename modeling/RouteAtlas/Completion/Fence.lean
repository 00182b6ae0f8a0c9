import RouteAtlas.Text.Basic

/-!
# Code fences around a reply

A model likes to put its answer into a fenced code block. `unfence` removes an opening fence at
the very beginning (three backticks, optionally the name of the format, blanks, a line end) and a
closing fence at the very end, trims white space, and repeats this as long as the text gets
shorter. `checkReply` is a cheap test that what is left looks like the fragment asked for.
-/

namespace RouteAtlas

/-- Three backticks. -/
def fence : List Char := ['\x60', '\x60', '\x60']

/-- A blank inside a line. -/
def isInlineBlank (c : Char) : Bool := c == ' ' || c == '\t'

/-- Drops a word at the beginning, compared without regard to the case of ASCII letters. -/
def afterWord? : List Char → List Char → Option (List Char)
  | [], cs => some cs
  | _ :: _, [] => none
  | w :: ws, c :: cs => if c.toLower == w then afterWord? ws cs else none

/-- Drops the name of the format, if it is there. -/
def dropFormatName (cs : List Char) : List Char :=
  match afterWord? ['y', 'a', 'm', 'l'] cs with
  | some rest => rest
  | none => (afterWord? ['y', 'm', 'l'] cs).getD cs

/-- Drops one line end, if it is there. -/
def dropNewline : List Char → List Char
  | '\n' :: cs => cs
  | cs => cs

/-- Drops an opening fence. -/
def dropOpening (cs : List Char) : List Char :=
  match Text.after? fence cs with
  | none => cs
  | some rest => dropNewline ((dropFormatName rest).dropWhile isInlineBlank)

/-- Drops a closing fence, with the blanks and the line end in front of it. -/
def dropClosing (cs : List Char) : List Char :=
  match Text.after? fence (cs.reverse.dropWhile Text.isBlank) with
  | none => cs
  | some rest => (dropNewline (rest.dropWhile isInlineBlank)).reverse

/-- One pass: the opening fence, the closing fence, the white space. -/
def unfenceOnce (cs : List Char) : List Char :=
  Text.trimChars (dropClosing (dropOpening cs))

/-- Passes as long as they shorten the text. -/
def unfenceChars (cs : List Char) : List Char :=
  if (unfenceOnce cs).length < cs.length then unfenceChars (unfenceOnce cs) else cs
termination_by cs.length

/-- A reply without the fences around it. -/
def unfence (reply : String) : String :=
  String.ofList (unfenceChars (Text.trimChars reply.toList))

/-! ### A first look at a reply -/

/-- What a first look finds wrong with a reply. -/
inductive ReplyFlaw
  /-- The reply is too short or has no colon. -/
  | notYaml
  /-- The reply mentions neither a summary nor responses. -/
  | noFields
deriving DecidableEq

/-- The wording of a flaw. -/
def ReplyFlaw.message : ReplyFlaw → String
  | .notYaml => "Response does not appear to be valid YAML"
  | .noFields => "Response missing required OpenAPI fields (summary, responses)"

/-- The flaws a first look finds. -/
def checkReply (reply : String) : List ReplyFlaw :=
  (if !Text.contains reply ":" || (Text.trim reply).length < 10 then [.notYaml] else []) ++
    (if !Text.contains reply "summary:" && !Text.contains reply "responses:" then [.noFields] else [])

end RouteAtlas
