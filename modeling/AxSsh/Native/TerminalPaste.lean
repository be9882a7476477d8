/-!
# Pasted text

`terminal/input.rs`: a clipboard text as one terminal input transaction.
-/

namespace AxSsh

def terminalPasteMaxBytes : Nat := 4 * 1024 * 1024

/-- What the loop of `encode_paste` pushes for the characters that are left. -/
def normalizePaste : List Char → List Char
  | [] => []
  | character :: rest =>
    if character = '\x1b' then normalizePaste rest
    else if character = '\r' then
      '\r' ::
        match rest with
        | [] => []
        -- `peek` sees the next character of the text, an ESC too
        | next :: rest' =>
          if next = '\n' then normalizePaste rest' else normalizePaste (next :: rest')
    else if character = '\n' then '\r' :: normalizePaste rest
    else character :: normalizePaste rest

example : normalizePaste ['a', '\r', '\n', 'b', '\n', '\x1b'] = ['a', '\r', 'b', '\r'] := by decide

def pasteStart : List UInt8 := "\x1b[200~".toList.flatMap String.utf8EncodeChar
def pasteEnd : List UInt8 := "\x1b[201~".toList.flatMap String.utf8EncodeChar

def encodePaste (text : List Char) (bracketed : Bool) : Option (List UInt8) :=
  let normalized := (normalizePaste text).flatMap String.utf8EncodeChar
  if normalized = [] ∨ terminalPasteMaxBytes < normalized.length then none
  else
    let wrapperBytes := if bracketed then 12 else 0
    if terminalPasteMaxBytes < normalized.length + wrapperBytes then none
    else
      some ((if bracketed then pasteStart else []) ++ normalized ++
        if bracketed then pasteEnd else [])

end AxSsh
