import Chip8.Sprite
import Mathlib.Data.List.Nodup
import Mathlib.Data.List.ProdSigma

namespace Chip8

namespace Bitmap

variable {width height : Nat}

/-- A cell that is not listed keeps its pixel. -/
theorem pixel_scatter_of_not_mem (bitmap : Bitmap width height) {cells : List (Cell width height)}
    (pixels : List Bool) {x : Fin width} {y : Fin height} (unlisted : (x, y) ∉ cells) :
    (bitmap.scatter cells pixels).pixel x y = bitmap.pixel x y := by
  induction cells generalizing bitmap pixels with
  | nil => rfl
  | cons cell rest ih =>
      cases pixels with
      | nil => rfl
      | cons lit pixels =>
          obtain ⟨other, unlistedRest⟩ := not_or.mp (mt List.mem_cons.mpr unlisted)
          change ((bitmap.set cell lit).scatter rest pixels).pixel x y = _
          rw [ih _ _ unlistedRest, pixel_set, if_neg other]

/-- If the listed cells differ, each of them gets the pixel that is listed with it. -/
theorem pixel_scatter_of_mem (bitmap : Bitmap width height) {cells : List (Cell width height)}
    {pixels : List Bool} (different : cells.Nodup) {x : Fin width} {y : Fin height} {lit : Bool}
    (listed : ((x, y), lit) ∈ cells.zip pixels) :
    (bitmap.scatter cells pixels).pixel x y = lit := by
  induction cells generalizing bitmap pixels with
  | nil => contradiction
  | cons cell rest ih =>
      cases pixels with
      | nil => contradiction
      | cons first pixels =>
          obtain ⟨fresh, others⟩ := List.nodup_cons.mp different
          change ((bitmap.set cell first).scatter rest pixels).pixel x y = lit
          obtain same | later := List.mem_cons.mp listed
          · obtain ⟨rfl, rfl⟩ := Prod.mk.inj same
            -- No later write meets this cell again.
            rw [pixel_scatter_of_not_mem _ _ fresh, pixel_set, if_pos rfl]
          · exact ih _ others later

end Bitmap

/-- The rest by a divisor survives a sum that wraps. -/
theorem bmod_emod_of_dvd (value : Int) {size whole : Nat} (divides : size ∣ whole) :
    value.bmod whole % size = value % size := by
  have dividesInt : (size : Int) ∣ whole := Int.natCast_dvd_natCast.mpr divides
  calc value.bmod whole % size
      _ = value.bmod whole % whole % size := (Int.emod_emod_of_dvd _ dividesInt).symm
      _ = value % whole % size := by rw [Int.bmod_emod]
      _ = value % size := Int.emod_emod_of_dvd _ dividesInt

namespace Sprite

/-- Numbers of 32 bits wrap at a multiple of the size, so only the size shows. -/
theorem wrapped_eq {size : Nat} (divides : size ∣ Int32.size) (corner : Int) (step : Nat) :
    wrapped size corner step = ((corner + step) % size).toNat := by
  have sum : (Int32.ofInt corner + Int32.ofNat step).toInt =
      ((Int32.ofInt corner).toInt + (Int32.ofNat step).toInt).bmod Int32.size :=
    Int32.toInt_add _ _
  rw [wrapped, sum, bmod_emod_of_dvd _ divides, Int32.toInt_ofInt, Int32.toInt_ofNat', Int.add_emod,
    bmod_emod_of_dvd _ divides, bmod_emod_of_dvd _ divides, ← Int.add_emod]

/-- This says that a sprite has a set bit so many columns and rows behind its corner. -/
def lit (sprite : List UInt8) (across down : Nat) : Bool :=
  across < 8 && sprite[down]?.any fun byte => byte.toNat.testBit (7 - across)

/-- This says whether a sprite with its corner at `(x, y)` has a set bit on a pixel. -/
def covers (sprite : List UInt8) (x y : Int) (column : Fin 64) (row : Fin 32) : Bool :=
  lit sprite ((column.val - x) % 64).toNat ((row.val - y) % 32).toNat

/-- These are the distances of a sprite's bits from its corner, the rows down and the columns
across. -/
def offsets (sprite : List UInt8) : List (Nat × Nat) :=
  List.range sprite.length ×ˢ List.range 8

theorem mem_offsets {sprite : List UInt8} {down across : Nat} :
    (down, across) ∈ offsets sprite ↔ down < sprite.length ∧ across < 8 := by
  simp [offsets]

theorem nodup_offsets (sprite : List UInt8) : (offsets sprite).Nodup :=
  List.nodup_range.product List.nodup_range

/-- Set bits lie in the eight columns and in the rows of the sprite. -/
theorem lit_inside {sprite : List UInt8} {across down : Nat}
    (shown : lit sprite across down = true) : (down, across) ∈ offsets sprite := by
  obtain ⟨near, bit⟩ := Bool.and_eq_true_iff.mp shown
  refine mem_offsets.mpr ⟨?_, of_decide_eq_true near⟩
  by_contra below
  rw [List.getElem?_eq_none (Nat.le_of_not_lt below)] at bit
  contradiction

/-- The distances are listed row by row. -/
theorem map_offsets {α : Type} (sprite : List UInt8) (value : Nat × Nat → α) :
    (offsets sprite).map value = (List.range sprite.length).flatMap fun down =>
      (List.range 8).map fun across => value (down, across) := by
  change ((List.range sprite.length).flatMap fun down =>
    (List.range 8).map (Prod.mk down)).map value = _
  rw [List.map_flatMap]
  simp only [List.map_map, Function.comp_def]

theorem cells_eq (x y : Int) (sprite : List UInt8) :
    cells x y sprite.length =
      (offsets sprite).map fun offset => place x y offset.2 offset.1 := by
  rw [map_offsets, cells]

/-- The bits of a sprite are those at their distances from its corner. -/
theorem bits_eq (sprite : List UInt8) :
    bits sprite = (offsets sprite).map fun offset => lit sprite offset.2 offset.1 := by
  rw [map_offsets]
  induction sprite with
  | nil => rfl
  | cons byte rest ih =>
      have mirrored : columnShifts = (List.range 8).map (7 - ·) := by decide
      have top : columnShifts.map byte.toNat.testBit =
          (List.range 8).map fun across => lit (byte :: rest) across 0 := by
        rw [mirrored, List.map_map]
        apply List.map_congr_left
        intro across near
        simp [lit, List.mem_range.mp near]
      -- Below the top row every bit is one row further down.
      rw [List.length_cons, List.range_succ_eq_map (n := rest.length), List.flatMap_cons,
        List.flatMap_map, ← top]
      exact congrArg _ ih

/-- Near the corner a cell tells its distance from it. -/
theorem place_eq_iff (x y : Int) {across down : Nat} (near : across < 8) (high : down < 32)
    (column : Fin 64) (row : Fin 32) :
    place x y across down = (column, row) ↔
      across = ((column.val - x) % 64).toNat ∧ down = ((row.val - y) % 32).toNat := by
  have columns := column.isLt
  have rows := row.isLt
  have columnIs := wrapped_eq (by decide : 64 ∣ Int32.size) x across
  have rowIs := wrapped_eq (by decide : 32 ∣ Int32.size) y down
  simp only [place, Prod.mk.injEq, Fin.ext_iff, columnIs, rowIs]
  omega

/-- Coordinates that are not negative wrap like natural numbers. -/
theorem place_natCast (x y across down : Nat) :
    (place x y across down).1.val = (x + across) % 64 ∧
      (place x y across down).2.val = (y + down) % 32 := by
  have columnIs := wrapped_eq (by decide : 64 ∣ Int32.size) x across
  have rowIs := wrapped_eq (by decide : 32 ∣ Int32.size) y down
  simp only [place, columnIs, rowIs]
  omega

/-- A cell near the corner shows the bit at its distance. -/
theorem covers_place (sprite : List UInt8) (x y : Int) {across down : Nat} (near : across < 8)
    (high : down < 32) :
    covers sprite x y (place x y across down).1 (place x y across down).2 =
      lit sprite across down := by
  obtain ⟨acrossIs, downIs⟩ := (place_eq_iff x y near high _ _).mp rfl
  exact congrArg₂ (lit sprite) acrossIs.symm downIs.symm

/-- A pixel is covered by a set bit at some distance from the corner. -/
theorem exists_offset {sprite : List UInt8} (fits : sprite.length ≤ 32) {x y : Int}
    {column : Fin 64} {row : Fin 32} (covered : covers sprite x y column row = true) :
    ∃ across down, lit sprite across down = true ∧ place x y across down = (column, row) := by
  obtain ⟨high, near⟩ := mem_offsets.mp (lit_inside covered)
  exact ⟨_, _, covered,
    (place_eq_iff x y near (Nat.lt_of_lt_of_le high fits) column row).mpr ⟨rfl, rfl⟩⟩

theorem mem_cells {x y : Int} {rows : Nat} {cell : Bitmap.Cell 64 32} :
    cell ∈ cells x y rows ↔ ∃ down < rows, ∃ across < 8, place x y across down = cell := by
  simp [cells]

/-- A sprite that is no taller than the display lies on different cells. -/
theorem nodup_cells {sprite : List UInt8} (fits : sprite.length ≤ 32) (x y : Int) :
    (cells x y sprite.length).Nodup := by
  rw [cells_eq]
  refine (nodup_offsets sprite).map_on ?_
  rintro ⟨down, across⟩ member ⟨otherDown, otherAcross⟩ otherMember same
  obtain ⟨high, near⟩ := mem_offsets.mp member
  obtain ⟨otherHigh, otherNear⟩ := mem_offsets.mp otherMember
  have below : down < 32 := Nat.lt_of_lt_of_le high fits
  have otherBelow : otherDown < 32 := Nat.lt_of_lt_of_le otherHigh fits
  obtain ⟨acrossIs, downIs⟩ := (place_eq_iff x y near below _ _).mp rfl
  obtain ⟨otherAcrossIs, otherDownIs⟩ := (place_eq_iff x y otherNear otherBelow _ _).mp same.symm
  rw [acrossIs, downIs, otherAcrossIs, otherDownIs]

end Sprite

namespace Display

/-- The pixels under a sprite meet its bits at their distances from the corner. -/
theorem zipWith_gather (combine : Bool → Bool → Bool) (display : Display) (x y : Int)
    (sprite : List UInt8) :
    List.zipWith combine (display.gather (Sprite.cells x y sprite.length)) (Sprite.bits sprite) =
      (Sprite.offsets sprite).map fun offset =>
        let cell := Sprite.place x y offset.2 offset.1
        combine (display.pixel cell.1 cell.2) (Sprite.lit sprite offset.2 offset.1) := by
  simp only [Sprite.cells_eq, Sprite.bits_eq, Bitmap.gather, List.map_map, List.zipWith_map,
    List.zipWith_self, Function.comp_def]

/-- Drawing writes to each cell its pixel, turned over if a set bit lies on it. -/
theorem zip_cells (display : Display) (x y : Int) (sprite : List UInt8) :
    let cells := Sprite.cells x y sprite.length
    cells.zip (List.zipWith xor (display.gather cells) (Sprite.bits sprite)) =
      (Sprite.offsets sprite).map fun offset =>
        let cell := Sprite.place x y offset.2 offset.1
        (cell, display.pixel cell.1 cell.2 ^^ Sprite.lit sprite offset.2 offset.1) := by
  intro cells
  rw [zipWith_gather]
  simp only [cells, Sprite.cells_eq, List.zip_map']

/-- Drawing flips the pixels that a sprite covers. -/
theorem pixel_draw {sprite : List UInt8} (fits : sprite.length ≤ 32) (display : Display) (x y : Int)
    (column : Fin 64) (row : Fin 32) :
    (display.draw x y sprite).pixel column row =
      (display.pixel column row ^^ Sprite.covers sprite x y column row) := by
  by_cases under : (column, row) ∈ Sprite.cells x y sprite.length
  · obtain ⟨down, high, across, near, place⟩ := Sprite.mem_cells.mp under
    have bit := Sprite.covers_place sprite x y near (Nat.lt_of_lt_of_le high fits)
    apply Bitmap.pixel_scatter_of_mem _ (Sprite.nodup_cells fits x y)
    rw [zip_cells, List.mem_map]
    refine ⟨(down, across), Sprite.mem_offsets.mpr ⟨high, near⟩, ?_⟩
    rw [place] at bit
    simp only [place, bit]
  · have clear : Sprite.covers sprite x y column row = false := by
      by_contra covered
      obtain ⟨across, down, shown, place⟩ :=
        Sprite.exists_offset fits (Bool.not_eq_false _ ▸ covered)
      obtain ⟨high, near⟩ := Sprite.mem_offsets.mp (Sprite.lit_inside shown)
      exact under (Sprite.mem_cells.mpr ⟨down, high, across, near, place⟩)
    rw [clear, Bool.xor_false]
    exact Bitmap.pixel_scatter_of_not_mem _ _ under

/-- A sprite collides exactly if a set bit of it lies on a lit pixel. -/
theorem collides_iff_exists_offset (display : Display) (x y : Int) (sprite : List UInt8) :
    display.collides x y sprite = true ↔
      ∃ across down, Sprite.lit sprite across down = true ∧
        display.pixel (Sprite.place x y across down).1 (Sprite.place x y across down).2 = true := by
  rw [collides, zipWith_gather]
  simp only [List.any_map, List.any_eq_true, Function.comp_def, id, Bool.and_eq_true]
  constructor
  · rintro ⟨⟨down, across⟩, _, on, shown⟩
    exact ⟨across, down, shown, on⟩
  · rintro ⟨across, down, shown, on⟩
    exact ⟨(down, across), Sprite.lit_inside shown, on, shown⟩

/-- A sprite collides exactly if it switches a pixel off. -/
theorem collides_iff {sprite : List UInt8} (fits : sprite.length ≤ 32) (display : Display)
    (x y : Int) :
    display.collides x y sprite = true ↔
      ∃ column row, display.pixel column row = true ∧
        (display.draw x y sprite).pixel column row = false := by
  have off (column : Fin 64) (row : Fin 32) (on : display.pixel column row = true) :
      (display.draw x y sprite).pixel column row = false ↔
        Sprite.covers sprite x y column row = true := by
    rw [pixel_draw fits, on, Bool.true_xor, Bool.not_eq_false']
  rw [collides_iff_exists_offset]
  constructor
  · rintro ⟨across, down, shown, on⟩
    obtain ⟨high, near⟩ := Sprite.mem_offsets.mp (Sprite.lit_inside shown)
    have bit := Sprite.covers_place sprite x y near (Nat.lt_of_lt_of_le high fits)
    exact ⟨_, _, on, (off _ _ on).mpr (bit.trans shown)⟩
  · rintro ⟨column, row, on, out⟩
    obtain ⟨across, down, shown, place⟩ := Sprite.exists_offset fits ((off column row on).mp out)
    exact ⟨across, down, shown, by rw [place, on]⟩

/-- This says what drawing a sprite with its corner at `(x, y)` makes of a display and whether that
is a collision. -/
structure Blits (display : Display) (x y : Int) (sprite : List UInt8) (drawn : Display)
    (collision : Bool) : Prop where
  /-- Every pixel looks up its own bit of the sprite. -/
  pixel : ∀ (column : Fin 64) (row : Fin 32), drawn.pixel column row =
    (display.pixel column row ^^
      Sprite.lit sprite ((column.val - x) % 64).toNat ((row.val - y) % 32).toNat)
  collision : collision = true ↔
    ∃ column row, display.pixel column row = true ∧ drawn.pixel column row = false

/-- Drawing blits every sprite that is no taller than the display. -/
theorem blits_draw {sprite : List UInt8} (fits : sprite.length ≤ 32) (display : Display)
    (x y : Int) :
    display.Blits x y sprite (display.draw x y sprite) (display.collides x y sprite) where
  pixel := display.pixel_draw fits x y
  collision := display.collides_iff fits x y

/-- A sprite given by its bytes is drawn, unless it is taller than the display. -/
theorem drawIntegers_bytes {sprite : List UInt8} (fits : sprite.length ≤ 32) (display : Display)
    (x y : Int) :
    display.drawIntegers x y (sprite.map fun byte => (byte.toNat : Int)) =
      .ok (display.draw x y sprite, display.collides x y sprite) := by
  have short : ¬ Layout.screenHeight < sprite.length := Nat.not_lt.mpr fits
  simp only [drawIntegers, bytesOf_map_toNat, bind, Except.bind, short, if_false]
  rfl

/-- An empty sprite has no set bit. -/
theorem collides_nil (display : Display) (x y : Int) : display.collides x y [] = false := rfl

end Display

end Chip8
