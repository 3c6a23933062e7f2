import ArtifactPipeline.Text.Utf8

set_option autoImplicit false

namespace ArtifactPipeline.Tools.Arrangement

open Text (Octets)

structure Cell where
  text : Octets
  width : Nat

structure Page where
  width : Nat := 80
  tab : Nat := 8
  ending : Char := '\n'

def indent (tab : Nat) (near far : Nat) : Octets :=
  go (far - near) near
where
  go : Nat → Nat → Octets
    | 0, _ => []
    | fuel + 1, column =>
        if far ≤ column then []
        else if tab != 0 && (column + 1) / tab < far / tab then
          '\t' :: go fuel (column + tab - column % tab)
        else ' ' :: go fuel (column + 1)

def leastColumn : Nat := 3

def gap : Nat := 2

def columnWidths (down : Bool) (widths : List Nat) (columns : Nat) : List Nat :=
  let rows := (widths.length + columns - 1) / columns
  let columnOf (place : Nat) : Nat := if down then place / rows else place % columns
  widths.zipIdx.foldl (fun (found : List Nat) (width, place) =>
    let column := columnOf place
    let width := if column + 1 = columns then width else width + gap
    found.modify column (max width)) (List.replicate columns leastColumn)

def fits (page : Page) (widths : List Nat) : Bool :=
  widths.all (· == leastColumn) || widths.foldl (· + ·) 0 < page.width

def bestWidths (page : Page) (down : Bool) (widths : List Nat) : List Nat :=
  let most := (page.width + leastColumn - 1) / leastColumn
  let most := if page.width = 0 then widths.length else min most widths.length
  let counts := ((List.range most).map (· + 1)).reverse
  match counts.find? fun count => fits page (columnWidths down widths count) with
  | some count => columnWidths down widths count
  | none => columnWidths down widths 1

def line (page : Page) : Nat → List Nat → List Cell → Octets
  | place, width :: widths, cell :: next :: cells =>
      cell.text ++ indent page.tab (place + cell.width) (place + width) ++
        line page (place + width) widths (next :: cells)
  | _, _, cells => cells.flatMap Cell.text ++ [page.ending]

def everyOf (step : Nat) (cells : List Cell) : List Cell :=
  (cells.zipIdx.filter fun (_, place) => place % step = 0).map (·.1)

def chunks (size : Nat) : Nat → List Cell → List (List Cell)
  | 0, _ => []
  | fuel + 1, cells =>
      if cells.isEmpty then [] else cells.take size :: chunks size fuel (cells.drop size)

def inColumns (page : Page) (down : Bool) (cells : List Cell) : Octets :=
  let widths := bestWidths page down (cells.map Cell.width)
  let columns := widths.length
  let rows :=
    if down then
      let count := (cells.length + columns - 1) / columns
      (List.range count).map fun row => everyOf count (cells.drop row)
    else chunks columns cells.length cells
  rows.flatMap (line page 0 widths)

def inRow (page : Page) (sign : Char) (cells : List Cell) : Octets :=
  go 0 cells
where
  go : Nat → List Cell → Octets
    | _, [] => []
    | _, [cell] => cell.text ++ [page.ending]
    | place, cell :: next :: cells =>
        let place := if page.width = 0 then place else place + cell.width
        let width := if page.width = 0 then 0 else next.width
        if page.width = 0 || place + width + gap < page.width then
          cell.text ++ [sign, ' '] ++ go (place + gap) (next :: cells)
        else cell.text ++ [sign, page.ending] ++ go 0 (next :: cells)

end ArtifactPipeline.Tools.Arrangement
