import PodInventory.Text.Split
import PodInventory.Text.Width

namespace PodInventory.Cli.Grid

/-- A cell may hold several lines. -/
def cellLines (cell : String) : List String := (Text.splitAll '\n' cell.toList).map String.ofList

def cellWidth (cell : String) : Nat := (cellLines cell).foldl (fun w l ↦ max w (Text.width l)) 0

/-- The width of every column. -/
def widths (rows : List (List String)) : List Nat :=
  rows.foldl (fun ws row ↦ widen ws (row.map cellWidth)) []
where
  widen : List Nat → List Nat → List Nat
    | [], ws => ws
    | ws, [] => ws
    | v :: vs, w :: ws => max v w :: widen vs ws

def border (ws : List Nat) : String :=
  "+" ++ String.join (ws.map (fun w ↦ .ofList (List.replicate (w + 2) '-' ++ ['+'])))

def padTo (w : Nat) (line : String) : String :=
  line ++ .ofList (List.replicate (w - Text.width line) ' ')

def rowLine (ws : List Nat) (cells : List (List String)) (n : Nat) : String :=
  "|" ++ String.join ((ws.zip cells).map (fun c ↦ " " ++ padTo c.1 (c.2[n]?.getD "") ++ " |"))

/-- A row is as high as its highest cell. -/
def rowLines (ws : List Nat) (row : List String) : List String :=
  let cells := row.map cellLines
  let height := cells.foldl (fun h c ↦ max h c.length) 0
  (List.range height).map (rowLine ws cells)

/-- A table with a line around every cell. -/
def text (header : List String) (rows : List (List String)) : String :=
  let all := header :: rows
  let ws := widths all
  "\n".intercalate (border ws :: all.flatMap (fun row ↦ rowLines ws row ++ [border ws]))

end PodInventory.Cli.Grid
