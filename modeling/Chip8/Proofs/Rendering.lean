import Chip8.Picture

namespace Chip8

namespace Picture

variable {α : Type}

/-- These are the items of a list at the multiples of a step. -/
def everyNth (step : Nat) : List α → List α
  | [] => []
  | item :: rest => item :: everyNth step (rest.drop (step - 1))
termination_by items => items.length
decreasing_by
  rw [List.length_cons, List.length_drop]
  omega

/-- This keeps the pixels whose row and column are multiples of a step. -/
def sample (step : Nat) (picture : Picture) : Picture where
  rows := everyNth step (picture.rows.map (everyNth step))

/-- This is the colour in a row and a column. -/
def pixel? (picture : Picture) (row column : Nat) : Option Colour :=
  picture.rows[row]?.bind fun colours => colours[column]?

theorem getElem?_everyNth {step : Nat} (positive : 0 < step) (items : List α) (place : Nat) :
    (everyNth step items)[place]? = items[step * place]? := by
  fun_induction everyNth step items generalizing place with
  | case1 => rfl
  | case2 item rest ih =>
      cases place with
      | zero => rfl
      | succ place =>
          have next : step * (place + 1) = step - 1 + step * place + 1 := by
            rw [Nat.mul_succ]
            omega
          rw [List.getElem?_cons_succ, ih, List.getElem?_drop, next, List.getElem?_cons_succ]

theorem length_stretch (scale : Nat) (items : List α) :
    (stretch scale items).length = items.length * scale := by
  induction items with
  | nil => exact (Nat.zero_mul scale).symm
  | cons item rest ih =>
      rw [stretch, List.flatMap_cons, List.length_append, List.length_replicate, ← stretch, ih,
        List.length_cons, Nat.succ_mul, Nat.add_comm]

/-- In a stretched list every item stands at its place times the scale and up to the next one. -/
theorem getElem?_stretch {scale : Nat} (positive : 0 < scale) (items : List α) (place : Nat) :
    (stretch scale items)[place]? = items[place / scale]? := by
  induction items generalizing place with
  | nil => rfl
  | cons item rest ih =>
      rw [stretch, List.flatMap_cons, ← stretch]
      by_cases first : place < scale
      · rw [List.getElem?_append_left (by rwa [List.length_replicate]),
          List.getElem?_replicate_of_lt first, Nat.div_eq_of_lt first, List.getElem?_cons_zero]
      · have behind : scale ≤ place := Nat.le_of_not_lt first
        rw [List.getElem?_append_right (by rwa [List.length_replicate]), List.length_replicate, ih,
          Nat.div_eq_sub_div positive behind, List.getElem?_cons_succ]

/-- Sampling undoes stretching. -/
theorem everyNth_stretch {scale : Nat} (positive : 0 < scale) (items : List α) :
    everyNth scale (stretch scale items) = items := by
  apply List.ext_getElem?
  intro place
  rw [getElem?_everyNth positive, getElem?_stretch positive, Nat.mul_div_cancel_left _ positive]

theorem map_stretch {β : Type} (scale : Nat) (items : List α) (change : α → β) :
    (stretch scale items).map change = stretch scale (items.map change) := by
  simp only [stretch, List.map_flatMap, List.map_replicate, List.flatMap_map]

theorem stretch_one (items : List α) : stretch 1 items = items := by
  apply List.ext_getElem?
  intro place
  rw [getElem?_stretch Nat.one_pos, Nat.div_one]

theorem enlarge_one (picture : Picture) : picture.enlarge 1 = picture := by
  have same : stretch 1 = (id : List Colour → List Colour) := funext stretch_one
  rw [enlarge, stretch_one, same, List.map_id]

/-- Sampling undoes enlarging. -/
theorem sample_enlarge {scale : Nat} (positive : 0 < scale) (picture : Picture) :
    (picture.enlarge scale).sample scale = picture := by
  have sampled : everyNth scale ∘ stretch scale = (id : List Colour → List Colour) :=
    funext (everyNth_stretch positive)
  rw [sample, enlarge, map_stretch, everyNth_stretch positive, List.map_map, sampled, List.map_id]

/-- A pixel of an enlarged picture shows the pixel that its square stands for. -/
theorem pixel?_enlarge {scale : Nat} (positive : 0 < scale) (picture : Picture) (row column : Nat) :
    (picture.enlarge scale).pixel? row column = picture.pixel? (row / scale) (column / scale) := by
  simp only [pixel?, enlarge, getElem?_stretch positive, List.getElem?_map, Option.bind_map,
    Function.comp_def]

end Picture

/-- This reads a colour off its own parts as integers. -/
def Colour.ofParts (colour : Colour) : Except Error Colour :=
  Colour.ofIntegers colour.red.toNat colour.green.toNat colour.blue.toNat

/-- Three bytes are the parts of a colour. -/
theorem Colour.ofParts_eq (colour : Colour) : colour.ofParts = .ok colour := by
  simp only [ofParts, ofIntegers, byteOf_toNat, bind, Except.bind, pure, Except.pure]

/-- This is the colour of a pixel. -/
def ColourPair.ofPixel (colours : ColourPair) (lit : Bool) : Colour :=
  if lit then colours.lit else colours.unlit

namespace Bitmap

variable {width height : Nat}

/-- This is the pixel in a row and a column. -/
def cell? (bitmap : Bitmap width height) (row column : Nat) : Option Bool :=
  if inside : column < width ∧ row < height then
    some (bitmap.pixel ⟨column, inside.1⟩ ⟨row, inside.2⟩)
  else none

/-- This is the pixel that a pixel of the enlarged picture comes from. -/
def source? (bitmap : Bitmap width height) (scale row column : Nat) : Option Bool :=
  bitmap.cell? (row / scale) (column / scale)

theorem length_lists (bitmap : Bitmap width height) : bitmap.lists.length = height := by
  simp [lists]

theorem length_of_mem_lists {bitmap : Bitmap width height} {row : List Bool}
    (member : row ∈ bitmap.lists) : row.length = width := by
  simp only [lists, Vector.toList_map, List.mem_map] at member
  obtain ⟨cells, _, rfl⟩ := member
  exact cells.length_toList

theorem getElem?_lists (bitmap : Bitmap width height) (row column : Nat) :
    (bitmap.lists[row]?.bind fun cells => cells[column]?) = bitmap.cell? row column := by
  rw [lists, Vector.toList_map, List.getElem?_map, Vector.getElem?_toList, cell?]
  by_cases rowInside : row < height
  · rw [Vector.getElem?_eq_getElem rowInside, Option.map_some, Option.bind_some,
      Vector.getElem?_toList]
    by_cases columnInside : column < width
    · rw [Vector.getElem?_eq_getElem columnInside, dif_pos ⟨columnInside, rowInside⟩]
      rfl
    · rw [Vector.getElem?_eq_none (Nat.le_of_not_lt columnInside),
        dif_neg fun inside => columnInside inside.1]
  · rw [Vector.getElem?_eq_none (Nat.le_of_not_lt rowInside),
      dif_neg fun inside => rowInside inside.2]
    rfl

/-- Where each pixel is marked, the mark of a pixel stands in its row and column. -/
theorem getElem?_lists_map {α : Type} (bitmap : Bitmap width height) (mark : Bool → α)
    (row column : Nat) :
    ((bitmap.lists.map (List.map mark))[row]?.bind fun marks => marks[column]?) =
      (bitmap.cell? row column).map mark := by
  rw [← getElem?_lists, List.getElem?_map, Option.bind_map, Option.map_bind]
  simp only [Function.comp_def, List.getElem?_map]

/-- The rows of a bitmap describe it. -/
theorem ofLists_lists (bitmap : Bitmap width height) :
    ofLists width height bitmap.lists = bitmap := by
  apply Bitmap.ext
  intro x y
  have cell := bitmap.getElem?_lists y x
  rw [cell?, dif_pos ⟨x.isLt, y.isLt⟩] at cell
  obtain ⟨cells, row, column⟩ := Option.bind_eq_some_iff.mp cell
  simp [ofLists, row, column]

/-- This is the picture of a bitmap that is not enlarged. -/
theorem picture_eq (bitmap : Bitmap width height) (scale : Nat) (colours : ColourPair) :
    bitmap.picture scale colours =
      Picture.enlarge scale { rows := bitmap.lists.map (List.map colours.ofPixel) } := rfl

/-- A value for each row that tells lit from unlit pixels describes the bitmap. -/
theorem ofLists_map {α : Type} (bitmap : Bitmap width height) {mark : Bool → α} {lit : α → Bool}
    (tells : ∀ on, lit (mark on) = on) :
    ofLists width height ((bitmap.lists.map (List.map mark)).map (List.map lit)) = bitmap := by
  have undone (row : List Bool) : (row.map mark).map lit = row := by
    rw [List.map_map, (funext tells : lit ∘ mark = id), List.map_id]
  rw [List.map_map, (funext undone : List.map lit ∘ List.map mark = id), List.map_id,
    ofLists_lists]

/-- The lines of a text are the rows of the bitmap, with a character for each pixel. -/
theorem splitOn_text (bitmap : Bitmap width height) (tall : 0 < height) {lit unlit : Char}
    (litInLine : lit ≠ '\n') (unlitInLine : unlit ≠ '\n') :
    (bitmap.text (.singleton lit) (.singleton unlit)).toList.splitOn '\n' =
      bitmap.lists.map (List.map fun on => if on then lit else unlit) := by
  have line (row : List Bool) :
      (String.join (row.map fun on =>
        if on then String.singleton lit else String.singleton unlit)).toList =
        row.map fun on => if on then lit else unlit := by
    rw [String.toList_join, List.flatMap_map]
    induction row with
    | nil => rfl
    | cons on rest ih =>
        rw [List.flatMap_cons, ih, List.map_cons]
        cases on <;> simp
  have newline : "\n".toList = ['\n'] := by decide
  rw [text, String.toList_intercalate, newline, List.map_map]
  simp only [Function.comp_def, line]
  apply List.splitOn_intercalate
  · intro characters member broken
    obtain ⟨row, _, rfl⟩ := List.mem_map.mp member
    obtain ⟨on, _, same⟩ := List.mem_map.mp broken
    cases on with
    | true => exact litInLine same
    | false => exact unlitInLine same
  · intro empty
    have none := congrArg List.length empty
    rw [List.length_map, length_lists] at none
    exact absurd none (Nat.ne_of_gt tall)

/-- A bitmap is rendered at every positive scale and in all colours whose parts are bytes. -/
theorem render_ofParts (bitmap : Bitmap width height) {scale : Int} (positive : 1 ≤ scale)
    (lit unlit : Colour) :
    bitmap.render scale lit.ofParts unlit.ofParts =
      .ok (bitmap.picture scale.toNat { lit, unlit }) := by
  have accepted : checkScale scale = .ok scale.toNat := if_neg (Int.not_lt.mpr positive)
  simp only [render, accepted, Colour.ofParts_eq, bind, Except.bind, pure, Except.pure]

theorem picture_one (bitmap : Bitmap width height) (colours : ColourPair) :
    bitmap.picture 1 colours = { rows := bitmap.lists.map (List.map colours.ofPixel) } := by
  rw [picture_eq, Picture.enlarge_one]

theorem length_picture (bitmap : Bitmap width height) (scale : Nat) (colours : ColourPair) :
    (bitmap.picture scale colours).rows.length = height * scale := by
  rw [picture_eq, Picture.enlarge, Picture.length_stretch, List.length_map, List.length_map,
    length_lists]

theorem length_of_mem_picture {bitmap : Bitmap width height} {scale : Nat} {colours : ColourPair}
    {row : List Colour} (member : row ∈ (bitmap.picture scale colours).rows) :
    row.length = width * scale := by
  obtain ⟨stretched, among, copies⟩ := List.mem_flatMap.mp member
  obtain ⟨coloured, rows, rfl⟩ := List.mem_map.mp among
  obtain ⟨cells, described, rfl⟩ := List.mem_map.mp rows
  rw [List.eq_of_mem_replicate copies, Picture.length_stretch, List.length_map,
    length_of_mem_lists described]

/-- A pixel of a picture has the colour of the pixel that it comes from. -/
theorem pixel?_picture (bitmap : Bitmap width height) {scale : Nat} (positive : 0 < scale)
    (colours : ColourPair) (row column : Nat) :
    (bitmap.picture scale colours).pixel? row column =
      (bitmap.source? scale row column).map colours.ofPixel := by
  rw [picture_eq, Picture.pixel?_enlarge positive]
  exact bitmap.getElem?_lists_map colours.ofPixel (row / scale) (column / scale)

/-- Pictures and texts show the pixels of a bitmap and nothing else. -/
theorem renderings_agree (bitmap : Bitmap width height) (tall : 0 < height) {scale : Int}
    (positive : 1 ≤ scale) (lit unlit : Colour) :
    let side := scale.toNat
    ∃ picture plain,
      bitmap.render scale lit.ofParts unlit.ofParts = .ok picture ∧
      bitmap.render 1 lit.ofParts unlit.ofParts = .ok plain ∧
      picture.rows.length = height * side ∧
      (∀ row ∈ picture.rows, row.length = width * side) ∧
      (∀ row column, picture.pixel? row column =
        (bitmap.source? side row column).map fun on => if on then lit else unlit) ∧
      picture.sample side = plain ∧
      (lit ≠ unlit →
        ofLists width height (plain.rows.map (List.map fun colour => colour = lit)) = bitmap) ∧
      ∀ on off : Char, on ≠ off → on ≠ '\n' → off ≠ '\n' →
        let lines := (bitmap.text (.singleton on) (.singleton off)).toList.splitOn '\n'
        lines.length = height ∧ (∀ line ∈ lines, line.length = width) ∧
        ofLists width height (lines.map (List.map fun character => character = on)) = bitmap ∧
        ∀ row column, (lines[row]?.bind fun text => text[column]?) = some on ↔
          bitmap.source? side (row * side) (column * side) = some true := by
  intro side
  have sidePositive : 0 < side := Int.lt_toNat.mpr positive
  have plain : bitmap.picture 1 { lit, unlit } = _ := bitmap.picture_one _
  refine ⟨_, _, bitmap.render_ofParts positive lit unlit, bitmap.render_ofParts (Int.le_refl 1) _ _,
    bitmap.length_picture _ _, fun _ => length_of_mem_picture,
    bitmap.pixel?_picture sidePositive _, ?_, ?_, ?_⟩
  · rw [picture_eq, Picture.sample_enlarge sidePositive]
    exact plain.symm
  · intro different
    change ofLists width height ((bitmap.picture 1 { lit, unlit }).rows.map _) = bitmap
    rw [plain]
    apply bitmap.ofLists_map
    intro on
    cases on with
    | true => exact decide_eq_true rfl
    | false => exact decide_eq_false (Ne.symm different)
  · intro on off different onInLine offInLine lines
    have rows : lines = _ := bitmap.splitOn_text tall onInLine offInLine
    rw [rows]
    refine ⟨?_, ?_, ?_, ?_⟩
    · rw [List.length_map, length_lists]
    · intro line member
      obtain ⟨cells, described, rfl⟩ := List.mem_map.mp member
      rw [List.length_map, length_of_mem_lists described]
    · apply bitmap.ofLists_map
      intro lit
      cases lit with
      | true => exact decide_eq_true rfl
      | false => exact decide_eq_false (Ne.symm different)
    · intro row column
      rw [source?, Nat.mul_div_cancel _ sidePositive, Nat.mul_div_cancel _ sidePositive,
        getElem?_lists_map, Option.map_eq_some_iff]
      constructor
      · rintro ⟨_ | _, cell, same⟩
        · exact absurd same.symm different
        · exact cell
      · intro cell
        exact ⟨true, cell, rfl⟩

/-- A lit pixel at the end of the first of two rows becomes a square and a character. -/
theorem end_of_first_row_is_rendered :
    let bitmap : Bitmap 3 2 := ofPixels fun x y => x.val = 2 && y.val = 0
    let lines := (bitmap.text (.singleton '#') (.singleton '.')).toList.splitOn '\n'
    ∃ picture,
      bitmap.render 2 (Colour.ofIntegers 0 255 0) (Colour.ofIntegers 0 0 0) = .ok picture ∧
        picture.rows.length = 4 ∧ picture.pixel? 1 4 = some .lime ∧
        picture.pixel? 2 4 = some .black ∧ picture.pixel? 1 3 = some .black ∧
        lines.length = 2 ∧ (lines[0]?.bind fun text => text[2]?) = some '#' := by
  intro bitmap lines
  obtain ⟨picture, _, rendered, _, rows, _, pixels, _, _, shows⟩ :=
    renderings_agree bitmap (by decide) (by decide : (1 : Int) ≤ 2) .lime .black
  obtain ⟨count, _, _, characters⟩ := shows '#' '.' (by decide) (by decide) (by decide)
  refine ⟨picture, rendered, rows, ?_, ?_, ?_, count, (characters 0 2).mpr (by decide)⟩
  · rw [pixels]
    decide
  · rw [pixels]
    decide
  · rw [pixels]
    decide

end Bitmap

end Chip8
