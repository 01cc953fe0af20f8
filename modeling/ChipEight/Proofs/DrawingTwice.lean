import ChipEight.Proofs.Drawing

/-!
# Drawing a sprite twice

Programs move a sprite by drawing it again where it is and then drawing it elsewhere.  That works
because drawing (`execute_display`) flips cells: the second time the same cells are flipped back,
whatever was on the screen before, at whatever place and however much of the sprite falls off the
screen.  The one condition is that the sprite is not placed by the flag register, which the first
drawing writes to.

The collision flags of the two drawings are not the same: the first one tells of the cells that
were lit, the second of those that were dark, so between them they tell of every cell.

* `Sprite.flip_flip`, `Sprite.hits_flip_iff` — the screen and the collision of the second drawing.
* `Machine.sprite_draw` — both drawings draw the same sprite.
* `Machine.execute_draw_twice` — what two drawings leave behind.
-/

namespace ChipEight

/-! ## Flipping twice -/

namespace Sprite

variable (s : Sprite) (memory : Memory) (screen : Screen)

theorem flip_flip : s.flip memory (s.flip memory screen) = screen := by
  refine Vector.ext fun i hi => ?_
  rw [getElem_flip, getElem_flip, Bool.xor_assoc, Bool.xor_self, Bool.xor_false]

/-- A cell that is lit after flipping was dark before. -/
theorem hits_flip_iff :
    s.hits memory (s.flip memory screen) = true ↔
      ∃ i, ∃ _ : i < 2048, screen[i] = false ∧ s.covers memory i = true := by
  rw [hits_eq_true_iff]
  refine exists_congr fun i => exists_congr fun hi => and_congr_left fun hcovers => ?_
  rw [getElem_flip, hcovers, Bool.xor_true, Bool.not_eq_true']

end Sprite

namespace Machine

variable {m : Machine} {x y n : Nibble}

/-! ## The second drawing -/

/-- What a drawing changes. -/
theorem draw_eq (m : Machine) (x y n : Nibble) :
    m.draw x y n =
      { m with
        screen := (m.sprite x y n).flip m.memory m.screen
        registers := (m.draw x y n).registers
        redraw := true
        pc := m.pc + 2
        error := (m.draw x y n).error } := rfl

theorem register_draw_of_ne {r : Nibble} (hr : r ≠ 15) :
    (m.draw x y n).register r = m.register r :=
  (register_setRegister m 15 r _).trans (if_neg hr.symm)

/-- The flag register tells whether a lit cell went dark. -/
theorem register_draw_flag :
    (m.draw x y n).register 15 = 1 ↔ (m.sprite x y n).hits m.memory m.screen = true := by
  have hflag : (m.draw x y n).register 15 =
      Arithmetic.bit ((m.sprite x y n).hits m.memory m.screen) :=
    (register_setRegister m 15 15 _).trans (if_pos rfl)
  rw [hflag, Arithmetic.bit_eq_one_iff]

/-- A drawing moves its own sprite only if the flag register says where the sprite is. -/
theorem sprite_draw (hx : x ≠ 15) (hy : y ≠ 15) :
    (m.draw x y n).sprite x y n = m.sprite x y n := by
  rw [sprite, register_draw_of_ne hx, register_draw_of_ne hy, draw_eq]
  rfl

theorem screen_draw_draw (hx : x ≠ 15) (hy : y ≠ 15) :
    ((m.draw x y n).draw x y n).screen = m.screen := by
  rw [draw_eq]
  dsimp only
  rw [sprite_draw hx hy, draw_eq]
  exact Sprite.flip_flip ..

theorem draw_draw_eq (hx : x ≠ 15) (hy : y ≠ 15) :
    (m.draw x y n).draw x y n =
      { m with
        registers := ((m.draw x y n).draw x y n).registers
        redraw := true
        pc := m.pc + 2 + 2
        error := ((m.draw x y n).draw x y n).error } := by
  have heq : (m.draw x y n).draw x y n =
      { m with
        screen := ((m.draw x y n).draw x y n).screen
        registers := ((m.draw x y n).draw x y n).registers
        redraw := true
        pc := m.pc + 2 + 2
        error := ((m.draw x y n).draw x y n).error } := rfl
  rw [screen_draw_draw hx hy] at heq
  exact heq

/-- A lit cell goes dark the first time. -/
theorem register_draw_iff_lit :
    (m.draw x y n).register 15 = 1 ↔ ∃ c, m.Pixel x y n c ∧ m.screen.get c = true := by
  rw [register_draw_flag, Sprite.hits_eq_true_iff]
  constructor
  · rintro ⟨i, hi, hlit, hcovers⟩
    exact ⟨⟨i, hi⟩, (covers_iff_pixel m x y n ⟨i, hi⟩).1 hcovers, hlit⟩
  · rintro ⟨⟨i, hi⟩, hpixel, hlit⟩
    exact ⟨i, hi, hlit, (covers_iff_pixel m x y n ⟨i, hi⟩).2 hpixel⟩

/-- A cell that was dark went light the first time, and goes dark the second time. -/
theorem register_draw_draw_iff_dark (hx : x ≠ 15) (hy : y ≠ 15) :
    ((m.draw x y n).draw x y n).register 15 = 1 ↔
      ∃ c, m.Pixel x y n c ∧ m.screen.get c = false := by
  have hscreen : (m.draw x y n).screen = (m.sprite x y n).flip m.memory m.screen := rfl
  have hmemory : (m.draw x y n).memory = m.memory := rfl
  rw [register_draw_flag, sprite_draw hx hy, hscreen, hmemory, Sprite.hits_flip_iff]
  constructor
  · rintro ⟨i, hi, hdark, hcovers⟩
    exact ⟨⟨i, hi⟩, (covers_iff_pixel m x y n ⟨i, hi⟩).1 hcovers, hdark⟩
  · rintro ⟨⟨i, hi⟩, hpixel, hdark⟩
    exact ⟨i, hi, hdark, (covers_iff_pixel m x y n ⟨i, hi⟩).2 hpixel⟩

/-- **Drawing twice is drawing nothing.**  The second drawing of a sprite restores every cell of
the screen, and besides it only the flag register, the note for the host, the program counter and
perhaps the error byte change.  The first drawing finds a collision exactly if a set bit of the
sprite falls on a lit cell, the second exactly if one falls on a cell that was dark, and so one of
them does exactly if a set bit falls on the screen at all. -/
theorem execute_draw_twice (m : Machine) {x y n : Nibble} (hx : x ≠ 15) (hy : y ≠ 15) {word : Int}
    (hword : Fields.lowBits word = 0xD000 + 256 * x.val + 16 * y.val + n.val) :
    let once := m.execute word
    let twice := once.execute word
    (∀ c, twice.screen.get c = m.screen.get c) ∧
    (∀ r, r ≠ 15 → twice.register r = m.register r) ∧
    twice =
      { m with
        registers := twice.registers
        redraw := true
        pc := m.pc + 2 + 2
        error := twice.error } ∧
    (once.register 15 = 1 ↔ ∃ c, m.Pixel x y n c ∧ m.screen.get c = true) ∧
    (twice.register 15 = 1 ↔ ∃ c, m.Pixel x y n c ∧ m.screen.get c = false) ∧
    (once.register 15 = 1 ∨ twice.register 15 = 1 ↔ ∃ c, m.Pixel x y n c) := by
  intro once twice
  have honce : once = m.draw x y n := execute_draw m hword
  have htwice : twice = (m.draw x y n).draw x y n := by
    rw [← honce]
    exact execute_draw once hword
  have hscreen := screen_draw_draw (m := m) (n := n) hx hy
  have hlit := register_draw_iff_lit (m := m) (x := x) (y := y) (n := n)
  have hdark := register_draw_draw_iff_dark (m := m) (n := n) hx hy
  rw [honce, htwice]
  refine ⟨?_, ?_, draw_draw_eq hx hy, hlit, hdark, ?_⟩
  · intro c
    rw [hscreen]
  · intro r hr
    rw [register_draw_of_ne hr, register_draw_of_ne hr]
  · -- a cell is lit or dark
    rw [hlit, hdark, ← exists_or]
    refine exists_congr fun c => ?_
    rw [← and_or_left]
    cases m.screen.get c <;> simp

/-- The digit zero at the lower right corner of a dark screen: four of its cells are on the
screen, and only the second drawing finds them lit. -/
theorem execute_draw_twice_corner :
    let m := ((fresh .legacy ⟨0, 0⟩).setRegister 0 62).setRegister 1 30
    let twice := (m.execute 0xD015).execute 0xD015
    (0 : Nibble) ≠ 15 ∧ (1 : Nibble) ≠ 15 ∧
      Fields.lowBits 0xD015 = 0xD000 + 256 * (0 : Nibble).val + 16 * (1 : Nibble).val +
        (5 : Nibble).val ∧
      (∀ c, twice.screen.get c = false) ∧ (m.execute 0xD015).register 15 ≠ 1 ∧
      twice.register 15 = 1 := by
  intro m twice
  have hx : (0 : Nibble) ≠ 15 := by decide
  have hy : (1 : Nibble) ≠ 15 := by decide
  have hword : Fields.lowBits 0xD015 = 0xD000 + 256 * (0 : Nibble).val +
      16 * (1 : Nibble).val + (5 : Nibble).val := by decide
  have hdark : ∀ c, m.screen.get c = false := by
    rintro ⟨c, hc⟩
    exact Vector.getElem_replicate hc
  obtain ⟨hscreen, -, -, hfirst, hsecond, -⟩ := execute_draw_twice m hx hy hword
  refine ⟨hx, hy, hword, ?_, ?_, ?_⟩
  · intro c
    rw [hscreen, hdark]
  · rw [Ne, hfirst]
    rintro ⟨c, -, hlit⟩
    rw [hdark c] at hlit
    cases hlit
  · rw [hsecond]
    refine ⟨⟨30 * 64 + 62, by omega⟩, ?_, hdark _⟩
    exact ⟨0, by decide, 0, by decide, by decide +kernel, by decide, by decide, rfl⟩

end Machine

end ChipEight
