import AxSsh.Native.AppSettings

/-!
# Keyboard shortcuts

The functions of `app/input.rs` on both sides of the settings: a key event is recorded as the text
of a shortcut, and the menus derive modifiers and a key from that text.

`keyChar` gives the character that the UI library sends for a named key, `fromParts` is the
library's `Keys::from_parts`, and `lower` is `str::to_lowercase`.
-/

namespace AxSsh.Shortcuts

structure TerminalModifiers where
  alt : Bool := false
  control : Bool := false
  metaKey : Bool := false
  shift : Bool := false
deriving DecidableEq, Repr

/-- The keys of the library that a recorded shortcut knows by name. -/
inductive Key where
  | alt
  | altGr
  | control
  | controlR
  | metaKey
  | metaR
  | shift
  | shiftR
  | backspace
  | tab
  | backtab
  | returnKey
  | escape
  | delete
  | space
  | upArrow
  | downArrow
  | leftArrow
  | rightArrow
  | insert
  | home
  | endKey
  | pageUp
  | pageDown
  | f1
  | f2
  | f3
  | f4
  | f5
  | f6
  | f7
  | f8
  | f9
  | f10
  | f11
  | f12
deriving DecidableEq, Repr

def modifierKeys : List Key := [.alt, .altGr, .control, .controlR, .metaKey, .metaR, .shift, .shiftR]

def specialKeys : List (Key × String) :=
  [(.backspace, "Backspace"), (.tab, "Tab"), (.backtab, "Backtab"), (.returnKey, "Enter"),
    (.escape, "Escape"), (.delete, "Delete"), (.space, "Space"), (.upArrow, "ArrowUp"),
    (.downArrow, "ArrowDown"), (.leftArrow, "ArrowLeft"), (.rightArrow, "ArrowRight"),
    (.insert, "Insert"), (.home, "Home"), (.endKey, "End"), (.pageUp, "PageUp"),
    (.pageDown, "PageDown"), (.f1, "F1"), (.f2, "F2"), (.f3, "F3"), (.f4, "F4"), (.f5, "F5"),
    (.f6, "F6"), (.f7, "F7"), (.f8, "F8"), (.f9, "F9"), (.f10, "F10"), (.f11, "F11"),
    (.f12, "F12")]

/-! ## Recording -/

section Recording

variable (keyChar : Key → Char)

def matchesSlintKey (text : String) (key : Key) : Bool := text.toList == [keyChar key]

/-- `parse::<u8>()`, which takes a plus sign before the digits. -/
def parseU8 (text : List Char) : Option Nat :=
  let digits := if text.head? = some '+' then text.tail else text
  let value := digits.foldl (fun value c => value * 10 + (c.toNat - 48)) 0
  if digits ≠ [] ∧ digits.all Char.isDigit ∧ value ≤ 255 then some value else none

def extendedFunctionKeyNumber (text : String) : Option Nat :=
  match text.toList with
  | 'F' :: number => (parseU8 number).filter fun number => 13 ≤ number && number ≤ 24
  | _ => none

def shortcutKeyName (text : String) (control : Bool) : Option String :=
  if modifierKeys.any (matchesSlintKey keyChar text) then none
  else if (extendedFunctionKeyNumber text).isSome then some text
  else
    match specialKeys.find? fun key => matchesSlintKey keyChar text key.1 with
    | some (_, label) => some label
    | none =>
      match text.toList with
      | [character] =>
        if control && 1 ≤ character.toNat && character.toNat ≤ 15 then
          some (String.singleton (Char.ofNat (character.toNat + 64)))
        else if isControl character then none
        else if character = '+' then some "Plus"
        else if character.isAlpha then some (String.singleton character.toUpper)
        else some (String.singleton character)
      | _ => none

/-- The names before the key, in the order in which they are pushed. -/
def modifierNames (macos : Bool) (modifiers : TerminalModifiers) : List String :=
  (if modifiers.metaKey then [if macos then "Cmd" else "Meta"] else [])
    ++ (if modifiers.control then ["Ctrl"] else [])
    ++ (if modifiers.alt then ["Alt"] else [])
    ++ (if modifiers.shift then ["Shift"] else [])

def formatShortcutEventWithModifiers (macos : Bool) (text : String)
    (modifiers : TerminalModifiers) : String :=
  if !modifiers.alt && !modifiers.control && !modifiers.metaKey && !modifiers.shift then ""
  else
    match shortcutKeyName keyChar text modifiers.control with
    | none => ""
    | some key => "+".intercalate (modifierNames macos modifiers ++ [key])

end Recording

/-! ## Menus -/

structure NativeMenuShortcut where
  key : String
  modifiers : TerminalModifiers
deriving DecidableEq, Repr

/-- What is read off the text before the library sees it: the parts for the library, of which the
key is the last, and what the native menu of macOS keeps. -/
structure MenuParts where
  modifiers : List String
  key : String
  native : NativeMenuShortcut
deriving DecidableEq, Repr

structure MenuShortcut (Keys : Type) where
  keys : Keys
  /-- Only on macOS. -/
  native : Option NativeMenuShortcut

/-- `rsplit_once('+')`. -/
def rsplitOncePlus (text : String) : Option (String × String) :=
  if text.toList.contains '+' then
    some (String.ofList (text.toList.reverse.dropWhile (· ≠ '+')).tail.reverse,
      String.ofList (text.toList.reverse.takeWhile (· ≠ '+')).reverse)
  else none

/-- The body of the loop over the modifiers. -/
def pushModifier (applePlatform : Bool) (pushed : List String × TerminalModifiers)
    (modifier : List Char) : Except String (List String × TerminalModifiers) :=
  let (parts, native) := pushed
  if modifier = "Cmd".toList ∨ modifier = "Meta".toList then
    .ok (parts ++ [if applePlatform then "Control" else "Meta"], { native with metaKey := true })
  else if modifier = "Ctrl".toList then
    .ok (parts ++ [if applePlatform then "Meta" else "Control"], { native with control := true })
  else if modifier = "Alt".toList then .ok (parts ++ ["Alt"], { native with alt := true })
  else if modifier = "Shift".toList then .ok (parts ++ ["Shift"], { native with shift := true })
  else .error "shortcut contains an unknown modifier"

section Menus

variable (lower : String → String)

def slintMenuKeyName (key : String) : String :=
  if key = "Enter" then "Return"
  else if key = "ArrowUp" then "UpArrow"
  else if key = "ArrowDown" then "DownArrow"
  else if key = "ArrowLeft" then "LeftArrow"
  else if key = "ArrowRight" then "RightArrow"
  else if key = "," then "Comma"
  else if key.length = 1 ∧ key.toList.all fun character => !character.isAlpha then lower key
  else key

/-- `menu_shortcut_from_setting_for_platform` up to the call of the library. -/
def menuParts (applePlatform : Bool) (shortcut : String) : Except String MenuParts :=
  match rsplitOncePlus (trim shortcut) with
  | none => .error "shortcut must include a modifier"
  | some (modifiers, key) => do
    bailIf (key == "") "shortcut key is empty"
    let (parts, native) ←
      (modifiers.toList.splitOn '+').foldlM (pushModifier applePlatform) ([], {})
    return {
      modifiers := parts
      key := slintMenuKeyName lower key
      native := { key, modifiers := native } }

def menuShortcutFromSettingForPlatform {Keys : Type} (fromParts : List String → Except String Keys)
    (applePlatform : Bool) (shortcut : String) : Except String (MenuShortcut Keys) := do
  let parts ← menuParts lower applePlatform shortcut
  match fromParts (parts.modifiers ++ [parts.key]) with
  | .error error => .error s!"shortcut cannot be used by the native menu: {error}"
  | .ok keys => return { keys, native := if applePlatform then some parts.native else none }

end Menus

end AxSsh.Shortcuts
