import LoopSurvey.Json.Value
/-!
# The demo outline

The document of a small outline of two Fortran files, with the source text of both.
-/

namespace LoopSurvey.Sample

/-- The members of the record of a node in a source file. -/
def fileMembers (id text kind file fileId : String) : List (String × Json) :=
  [("id", .str id), ("text", .str text), ("type", .str kind), ("loc", .str file), ("fid", .str fileId)]

/-- The members of a record whose text is a piece of code in a program unit, with its lines and its
place in the order of the nodes. -/
def codeMembers (id code kind file fileId unit : String) (lines places : Nat × Nat) : List (String × Json) :=
  fileMembers id code kind file fileId ++
    [("code", .str code), ("pu", .str unit), ("sl", .int lines.1), ("el", .int lines.2),
      ("idx", .int places.1), ("lmi", .int places.2)]

/-- The members of the record of a node in the main program. -/
def mainMembers (id code kind : String) (lines places : Nat × Nat) : List (String × Json) :=
  codeMembers id code kind "src/main.f90" "a1b2c3" "main" lines places

/-- The members of the record of a node in the subroutine. -/
def kernelMembers (id code kind : String) (lines places : Nat × Nat) : List (String × Json) :=
  codeMembers id code kind "src/kernel.f90" "d4e5f6" "compute" lines places

/-- A record with its children. -/
def record (members : List (String × Json)) (children : List Json) : Json :=
  .obj (members ++ [("children", .arr children)])

/-- The state of a node that is opened. -/
def openedState : String × Json := ("state", .obj [("opened", .bool true)])

/-- The factors of a node with metrics. -/
def factors (first second third : Float) : List (String × Json) :=
  [("bf0", .float first), ("bf1", .float second), ("bf2", .float third)]

/-- A list of identifiers. -/
def idTexts (ids : List String) : Json := .arr (ids.map .str)

/-- The text of an annotation range in a line, with the members of its definition if it has one. -/
def rangeText (line first last : Nat) (definition : Option (List (String × String))) : String :=
  let place (column : Nat) := Json.objectText [("line", Nat.repr line), ("ch", Nat.repr column)]
  Json.objectText ([("start", place first), ("end", place last)] ++
    definition.toList.map fun members => ("def", Json.objectText members))

/-- The annotation ranges of the call in the main program. -/
def callRanges : String :=
  Json.arrayText
    [rangeText 12 11 17 (some [("line", "1"), ("path", Json.quote "src/kernel.f90"),
        ("code", Json.quote "subroutine compute(a, i, j)")]),
      rangeText 12 19 19 (some [("line", "4")]),
      rangeText 12 22 22 none]

/-- The members of the main program's file, which carries the side tables. -/
def mainFile : List (String × Json) :=
  fileMembers "f1" "src/main.f90" "file" "src/main.f90" "a1b2c3" ++
    [openedState,
      ("node_tbl", .obj
        [("src/main.f90", .obj [("10", idTexts ["l1"]), ("11", idTexts ["l2"])]),
          ("src/kernel.f90", .obj [("5", idTexts ["l3", "l3b"]), ("15", idTexts ["l4"])])]),
      ("callees_tbl", .obj [("compute", idTexts ["s1"])]),
      ("targets", idTexts ["l3", "l1"]),
      ("last_nid", .str "l2")]

/-- The record of the main program's file. -/
def mainRecord : Json :=
  record mainFile
    [record (mainMembers "p1" "program main" "main" (1, 40) (9, 1) ++ [openedState])
      [record
          (mainMembers "l1" "do i = 1, n" "loop" (10, 20) (4, 1) ++
            [("relevant", .bool true), ("target", .bool true), ("judgment", .str "NotYet"),
              ("other_metrics", .obj [("FOp", .int 12), ("St", .int 9), ("Br", .int 1)])] ++
            factors 1.25 2.5 0.75)
          [record
            (mainMembers "l2" "do j = 1, m" "loop" (11, 19) (3, 1) ++
              [("relevant", .bool true)] ++ factors 0.5 1.0 0.0)
            [record
              (mainMembers "c1" "call compute(a, i, j)" "call" (12, 12) (1, 1) ++
                [("callee", .str "compute"), ("nlinks", .int 1), ("aref_ranges", .str callRanges)])
              []]],
        record
          (mainMembers "c2" "call output(a)" "call*" (30, 30) (8, 8) ++ [("callee", .str "output")])
          []]]

/-- The record of the subroutine's file. -/
def kernelRecord : Json :=
  record (fileMembers "f2" "src/kernel.f90" "file" "src/kernel.f90" "d4e5f6" ++ [openedState])
    [record (kernelMembers "s1" "subroutine compute(a, i, j)" "subroutine" (1, 25) (16, 10))
      [record
          (kernelMembers "l3" "do k = 1, 8" "loop" (5, 7) (11, 10) ++
            [("relevant", .bool true), ("target", .bool true), ("checked", .bool true),
              ("comment", .str "vectorize this?")] ++ factors 3.0 1.5 1.0)
          [record (kernelMembers "l3b" "do kk = 1, 2" "loop" (5, 7) (10, 10) ++ [("relevant", .bool true)])
            []],
        record (kernelMembers "b1" "if (a(i) > 0) then" "branch" (14, 18) (15, 12))
          [record
            (kernelMembers "l4" "do k = 1, 4" "loop" (15, 17) (14, 12) ++
              [("relevant", .bool true), ("checked", .bool true)])
            []]]]

/-- The text of the demo document. -/
def demoText : String := (Json.arr [mainRecord, kernelRecord]).compact

/-- A source text from its lines. -/
def sourceText (lines : List String) : String := String.join (lines.map (· ++ "\n"))

/-- The source text of the main program. -/
def mainSource : String :=
  sourceText
    (["program main",
      "  implicit none",
      "  integer, parameter :: n = 100, m = 50",
      "  real :: a(n)",
      "  integer :: i, j",
      "",
      "  a = 0.0",
      "", "",
      "  do i = 1, n",
      "    do j = 1, m",
      "      call compute(a, i, j)",
      "    end do",
      "  end do"]
    ++ List.replicate 15 ""
    ++ ["  call output(a)"]
    ++ List.replicate 9 ""
    ++ ["end program main"])

/-- The source text of the subroutine. -/
def kernelSource : String :=
  sourceText
    (["subroutine compute(a, i, j)",
      "  real :: a(*)",
      "  integer :: i, j, k, kk",
      "",
      "  do k = 1, 8; do kk = 1, 2",
      "    a(i) = a(i) + real(k * kk + j)",
      "  end do; end do"]
    ++ List.replicate 6 ""
    ++ ["  if (a(i) > 0) then",
      "    do k = 1, 4",
      "      a(i) = a(i) * 0.5",
      "    end do",
      "  end if"]
    ++ List.replicate 6 ""
    ++ ["end subroutine compute"])

/-- The source text of a file of the demo outline. -/
def demoSource? (path : String) : Option String :=
  if path = "src/main.f90" then some mainSource
  else if path = "src/kernel.f90" then some kernelSource
  else none

end LoopSurvey.Sample
