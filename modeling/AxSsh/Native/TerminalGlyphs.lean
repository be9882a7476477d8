import Mathlib.Tactic.Common

/-!
# Fonts and drawn glyphs

The tables of `app/terminal_render/typography.rs` and the paths of `app/terminal_render/geometry.rs`:
which font family a text of the terminal takes, which symbols can share a run with fixed spacing,
and how box lines, blocks and prompt separators are drawn, in cells of 128 units.
-/

namespace AxSsh

/-! ## Font roles -/

inductive FontRole where
  | primary
  | symbol
  | emoji
deriving DecidableEq, Repr

/-- `matches!` with ranges of code points. -/
def inRanges (ranges : List (Nat × Nat)) (character : Char) : Bool :=
  ranges.any fun range => range.1 ≤ character.toNat && character.toNat ≤ range.2

/-- Characters that have their default color presentation. -/
def defaultEmoji : Char → Bool :=
  inRanges [(0x231a, 0x231b), (0x23e9, 0x23ec), (0x23f0, 0x23f0), (0x23f3, 0x23f3),
    (0x25fd, 0x25fe), (0x2614, 0x2615), (0x2648, 0x2653), (0x267f, 0x267f), (0x2693, 0x2693),
    (0x26a1, 0x26a1), (0x26aa, 0x26ab), (0x26bd, 0x26be), (0x26c4, 0x26c5), (0x26ce, 0x26ce),
    (0x26d4, 0x26d4), (0x26ea, 0x26ea), (0x26f2, 0x26f3), (0x26f5, 0x26f5), (0x26fa, 0x26fa),
    (0x26fd, 0x26fd), (0x2705, 0x2705), (0x270a, 0x270b), (0x2728, 0x2728), (0x274c, 0x274c),
    (0x274e, 0x274e), (0x2753, 0x2755), (0x2757, 0x2757), (0x2795, 0x2797), (0x27b0, 0x27b0),
    (0x27bf, 0x27bf), (0x2b1b, 0x2b1c), (0x2b50, 0x2b50), (0x2b55, 0x2b55), (0x1f000, 0x1faff)]

def isSymbol : Char → Bool :=
  inRanges [(0x2190, 0x23ff), (0x2500, 0x27bf), (0x2b00, 0x2bff)]

def fontRole (text : String) : FontRole :=
  let characters := text.toList
  -- a variation selector or a keycap decides before the characters do
  if characters.contains (.ofNat 0xfe0f) || characters.contains (.ofNat 0x20e3) then .emoji
  else if characters.contains (.ofNat 0xfe0e) then .symbol
  else if characters.any defaultEmoji ||
      (characters.contains (.ofNat 0x200d) && characters.any isSymbol) then .emoji
  else if characters.head?.any isSymbol then .symbol
  else .primary

/-- The characters of the domain's box-line batches. -/
def isBoxLine : Char → Bool := inRanges [(0x2500, 0x257f)]

def singleRegionalIndicator (text : String) : Bool :=
  match text.toList with
  | [character] => inRanges [(0x1f1e6, 0x1f1ff)] character
  | _ => false

def fixedSymbolRanges : List (Nat × Nat) :=
  [(0x2190, 0x21aa), (0x21ad, 0x21ae), (0x21b0, 0x21d9), (0x21de, 0x21e9), (0x21f3, 0x21f3),
    (0x21f5, 0x21f5), (0x21f7, 0x21fc), (0x2200, 0x22d3), (0x22d5, 0x22d7), (0x22da, 0x22f1),
    (0x22f6, 0x22f8), (0x22fd, 0x22ff), (0x2302, 0x2302), (0x2305, 0x2306), (0x2308, 0x230b),
    (0x2310, 0x2310), (0x231c, 0x2321), (0x2329, 0x232a), (0x2336, 0x237a), (0x2388, 0x238a),
    (0x2395, 0x2395), (0x239b, 0x23ae), (0x23b0, 0x23b1), (0x23cf, 0x23cf), (0x23f4, 0x23fe),
    (0x2500, 0x2600), (0x2605, 0x2606), (0x2610, 0x2612), (0x2630, 0x2637), (0x2639, 0x263c),
    (0x2640, 0x2642), (0x2660, 0x2667), (0x2669, 0x266f), (0x2680, 0x2687), (0x268a, 0x2691),
    (0x2699, 0x2699), (0x269b, 0x269b), (0x26a1, 0x26a1), (0x26aa, 0x26ab), (0x2713, 0x2718),
    (0x271a, 0x271a), (0x2731, 0x2731), (0x2733, 0x2734), (0x2736, 0x273a), (0x274c, 0x274c),
    (0x2764, 0x2764), (0x276c, 0x2771), (0x2776, 0x277f), (0x2794, 0x2794), (0x27a1, 0x27a1),
    (0x27a4, 0x27a6), (0x2b00, 0x2b0d), (0x2b12, 0x2b2f), (0x2b50, 0x2b55), (0x2b58, 0x2b58),
    (0x2b95, 0x2b95), (0x2bc0, 0x2bc8), (0x2bca, 0x2bcb), (0x2be8, 0x2beb)]

/-- Symbols whose advance is that of a letter in all the bundled fonts. -/
def fixedSymbol (character : Char) : Bool := inRanges fixedSymbolRanges character

/-! ## Paths -/

/-- The paths of a run, whose opacity is counted in hundredths. -/
structure GlyphPaths where
  fill : String := ""
  light : String := ""
  heavy : String := ""
  opacity : Nat := 0
deriving DecidableEq, Repr

/-- The weights of the left, right, upper and lower edge of a box line, 1 for a light one and 2
for a heavy one; the source packs them into a byte. -/
def boxEdges (character : Char) : Option (List Nat) :=
  match character with
  | '─' => some [1, 1, 0, 0]
  | '━' => some [2, 2, 0, 0]
  | '│' => some [0, 0, 1, 1]
  | '┃' => some [0, 0, 2, 2]
  | '┌' => some [0, 1, 0, 1]
  | '┍' => some [0, 2, 0, 1]
  | '┎' => some [0, 1, 0, 2]
  | '┏' => some [0, 2, 0, 2]
  | '┐' => some [1, 0, 0, 1]
  | '┑' => some [2, 0, 0, 1]
  | '┒' => some [1, 0, 0, 2]
  | '┓' => some [2, 0, 0, 2]
  | '└' => some [0, 1, 1, 0]
  | '┕' => some [0, 2, 1, 0]
  | '┖' => some [0, 1, 2, 0]
  | '┗' => some [0, 2, 2, 0]
  | '┘' => some [1, 0, 1, 0]
  | '┙' => some [2, 0, 1, 0]
  | '┚' => some [1, 0, 2, 0]
  | '┛' => some [2, 0, 2, 0]
  | '├' => some [0, 1, 1, 1]
  | '┤' => some [1, 0, 1, 1]
  | '┬' => some [1, 1, 0, 1]
  | '┴' => some [1, 1, 1, 0]
  | '┼' => some [1, 1, 1, 1]
  | '┣' => some [0, 2, 2, 2]
  | '┫' => some [2, 0, 2, 2]
  | '┳' => some [2, 2, 0, 2]
  | '┻' => some [2, 2, 2, 0]
  | '╋' => some [2, 2, 2, 2]
  | '╴' => some [1, 0, 0, 0]
  | '╵' => some [0, 0, 1, 0]
  | '╶' => some [0, 1, 0, 0]
  | '╷' => some [0, 0, 0, 1]
  | '╸' => some [2, 0, 0, 0]
  | '╹' => some [0, 0, 2, 0]
  | '╺' => some [0, 2, 0, 0]
  | '╻' => some [0, 0, 0, 2]
  | '╼' => some [1, 2, 0, 0]
  | '╽' => some [0, 0, 1, 2]
  | '╾' => some [2, 1, 0, 0]
  | '╿' => some [0, 0, 2, 1]
  | _ => none

namespace GlyphPaths

def isEmpty (paths : GlyphPaths) : Bool :=
  paths.fill.isEmpty && paths.light.isEmpty && paths.heavy.isEmpty

def line (x y endX endY : Nat) : String := s!"M {x} {y} L {endX} {endY} "

/-- The half lines of a box character, from the middle of its cell to its edges. -/
def appendEdges (paths : GlyphPaths) (edges : List Nat) (x : Nat) : GlyphPaths :=
  let ends := [(0, 64), (128, 64), (64, 0), (64, 128)]
  (edges.zip ends).foldl (fun paths (weight, endX, endY) =>
    let path := line (x + 64) 64 (x + endX) endY
    if weight = 0 then paths
    else if weight = 2 then { paths with heavy := paths.heavy ++ path }
    else { paths with light := paths.light ++ path }) paths

def rect (x left top width height : Nat) : String :=
  s!"M {x + left} {top} h {width} v {height} h -{width} Z "

/-- The quarters of a cell that a quadrant character fills, by its bits. -/
def quadrants (x mask : Nat) : String :=
  String.join (((List.range 4).filter mask.testBit).map fun bit =>
    rect x (bit % 2 * 64) (bit / 2 * 64) 64 64)

/-- What a block or a separator fills and what it draws; `none` for all other characters. -/
def shape (character : Char) (x : Nat) : Option (String × String) :=
  let point := character.toNat
  if point = 0x2580 then some (rect x 0 0 128 64, "")
  else if 0x2581 ≤ point ∧ point ≤ 0x2588 then
    let height := (point - 0x2580) * 128 / 8
    some (rect x 0 (128 - height) 128 height, "")
  else if 0x2589 ≤ point ∧ point ≤ 0x258f then
    some (rect x 0 0 ((0x2590 - point) * 128 / 8) 128, "")
  else if point = 0x2590 then some (rect x 64 0 64 128, "")
  else if 0x2591 ≤ point ∧ point ≤ 0x2593 then some (rect x 0 0 128 128, "")
  else if point = 0x2594 then some (rect x 0 0 128 (128 / 8), "")
  else if point = 0x2595 then some (rect x (128 - 128 / 8) 0 (128 / 8) 128, "")
  else if 0x2596 ≤ point ∧ point ≤ 0x259f then
    some (quadrants x ([4, 8, 1, 13, 9, 7, 11, 2, 6, 14].getD (point - 0x2596) 0), "")
  else if point = 0xe0b0 then some (s!"M {x} 0 l 128 64 l -128 64 Z ", "")
  else if point = 0xe0b1 then some ("", s!"M {x} 0 l 128 64 l -128 64 ")
  else if point = 0xe0b2 then some (s!"M {x + 128} 0 l -128 64 l 128 64 Z ", "")
  else if point = 0xe0b3 then some ("", s!"M {x + 128} 0 l -128 64 l 128 64 ")
  else if point = 0xe0b4 then
    some (s!"M {x} 0 Q {x + 128} 0 {x + 128} 64 Q {x + 128} 128 {x} 128 Z ", "")
  else if point = 0xe0b5 then
    some ("", s!"M {x} 0 Q {x + 128} 0 {x + 128} 64 Q {x + 128} 128 {x} 128 ")
  else if point = 0xe0b6 then
    some (s!"M {x + 128} 0 Q {x} 0 {x} 64 Q {x} 128 {x + 128} 128 Z ", "")
  else if point = 0xe0b7 then
    some ("", s!"M {x + 128} 0 Q {x} 0 {x} 64 Q {x} 128 {x + 128} 128 ")
  else none

def shapeOpacity (character : Char) : Nat :=
  match character with
  | '░' => 25
  | '▒' => 50
  | '▓' => 75
  | _ => 100

/-- `append`, which draws a character in a column of the run. -/
def append (paths : GlyphPaths) (character : Char) (column : Nat) : GlyphPaths :=
  let x := column * 128
  match boxEdges character with
  | some edges => { paths.appendEdges edges x with opacity := 100 }
  | none =>
    match shape character x with
    | some (fill, light) =>
      { paths with
        fill := paths.fill ++ fill
        light := paths.light ++ light
        opacity := shapeOpacity character }
    | none => paths

end GlyphPaths

end AxSsh
