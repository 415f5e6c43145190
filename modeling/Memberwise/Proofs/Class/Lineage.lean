import Memberwise.Class.Classes

/-! # Lines of descent as orders

A merged line keeps every line that it was merged from in order, and has no class beside theirs.
So the lineage of a declared class has the whole lineage of each class in it.
-/

namespace Memberwise

namespace Lineage

variable {lines : List (List ClassRef)} {c : ClassRef}

theorem choose_mem (h : choose lines = some c) : ∃ line ∈ lines, c ∈ line := by
  have hhead := List.mem_of_find?_eq_some h
  obtain ⟨line, hline, hc⟩ := List.mem_filterMap.mp hhead
  exact ⟨line, hline, List.mem_of_mem_head? hc⟩

/-- What is left of a line after a step is a line of the next step, or nothing. -/
theorem mem_advance_or_nil {line : List ClassRef} (h : line ∈ lines) :
    let left := if line.head? = some c then line.tail else line
    left ∈ advance c lines ∨ left = [] := by
  intro left
  by_cases hleft : left = []
  · exact .inr hleft
  · have hmap : left ∈ lines.map fun line => if line.head? = some c then line.tail else line :=
      List.mem_map.mpr ⟨line, h, rfl⟩
    exact .inl (List.mem_filter.mpr ⟨hmap, by simp [hleft]⟩)

theorem mem_of_mem_advance {line : List ClassRef} (h : line ∈ advance c lines) :
    ∃ before ∈ lines, line ⊆ before := by
  obtain ⟨hmap, -⟩ := List.mem_filter.mp h
  obtain ⟨before, hbefore, rfl⟩ := List.mem_map.mp hmap
  refine ⟨before, hbefore, ?_⟩
  split
  · exact before.tail_sublist.subset
  · exact List.Subset.refl before

/-- A merge is over when no line has a class left; else it goes on with the chosen class taken
away. -/
theorem mergeWithin_eq_some {fuel : Nat} {merged : List ClassRef}
    (h : mergeWithin fuel lines = some merged) :
    (∀ line ∈ lines, line = []) ∧ merged = [] ∨
      ∃ left c rest, fuel = left + 1 ∧ choose lines = some c ∧
        mergeWithin left (advance c lines) = some rest ∧ merged = c :: rest := by
  by_cases hempty : lines.all List.isEmpty = true
  · have hmerged : merged = [] := by
      cases fuel <;> simp only [mergeWithin, hempty, if_true, Option.some.injEq] at h <;>
        exact h.symm
    have hlines : ∀ line ∈ lines, line = [] := by
      intro line hline
      simpa using List.all_eq_true.mp hempty line hline
    exact .inl ⟨hlines, hmerged⟩
  · cases fuel with
    | zero => simp [mergeWithin, hempty] at h
    | succ left =>
        simp only [mergeWithin, hempty, Bool.false_eq_true, if_false, Option.bind_eq_some_iff,
          Option.map_eq_some_iff] at h
        obtain ⟨c, hc, rest, hrest, rfl⟩ := h
        exact .inr ⟨left, c, rest, rfl, hc, hrest, rfl⟩

theorem mergeWithin_sublist {fuel : Nat} {merged line : List ClassRef}
    (h : mergeWithin fuel lines = some merged) (hline : line ∈ lines) : line.Sublist merged := by
  induction fuel generalizing lines merged line with
  | zero =>
      rcases mergeWithin_eq_some h with ⟨hempty, -⟩ | ⟨left, c, rest, hfuel, -⟩
      · rw [hempty line hline]
        exact List.nil_sublist merged
      · omega
  | succ fuel ih =>
      rcases mergeWithin_eq_some h with ⟨hempty, -⟩ | ⟨left, c, rest, hfuel, -, hrest, rfl⟩
      · rw [hempty line hline]
        exact List.nil_sublist merged
      · obtain rfl : left = fuel := by omega
        have hleft : (if line.head? = some c then line.tail else line).Sublist rest := by
          rcases mem_advance_or_nil (c := c) hline with hmem | hnil
          · exact ih hrest hmem
          · rw [hnil]
            exact List.nil_sublist rest
        cases line with
        | nil => exact List.nil_sublist _
        | cons first tail =>
            by_cases hfirst : first = c
            · subst hfirst
              exact List.Sublist.cons_cons first (by simpa using hleft)
            · exact List.Sublist.cons c (by simpa [hfirst] using hleft)

theorem mem_of_mem_mergeWithin {fuel : Nat} {merged : List ClassRef}
    (h : mergeWithin fuel lines = some merged) (hc : c ∈ merged) : ∃ line ∈ lines, c ∈ line := by
  induction fuel generalizing lines merged with
  | zero =>
      rcases mergeWithin_eq_some h with ⟨-, rfl⟩ | ⟨left, first, rest, hfuel, -⟩
      · cases hc
      · omega
  | succ fuel ih =>
      rcases mergeWithin_eq_some h with ⟨-, rfl⟩ | ⟨left, first, rest, hfuel, hfirst, hrest, rfl⟩
      · cases hc
      · obtain rfl : left = fuel := by omega
        rcases List.mem_cons.mp hc with rfl | hc
        · exact choose_mem hfirst
        · obtain ⟨line, hline, hmem⟩ := ih hrest hc
          obtain ⟨before, hbefore, hsubset⟩ := mem_of_mem_advance hline
          exact ⟨before, hbefore, hsubset hmem⟩

/-- The classes of a merged line are those of the lines it was merged from. -/
theorem mem_merge_iff {merged : List ClassRef} (h : merge lines = some merged) :
    c ∈ merged ↔ ∃ line ∈ lines, c ∈ line := by
  refine ⟨mem_of_mem_mergeWithin h, ?_⟩
  rintro ⟨line, hline, hc⟩
  exact (mergeWithin_sublist h hline).subset hc

end Lineage

namespace Classes

/-- Whether a class is predefined or declared. -/
def Knows (classes : Classes) : ClassRef → Prop
  | .builtin _ => True
  | .declared name => (classes.find? name).isSome

/-- Classes as a program declares them, one after another: each under a name of its own, and after
its bases. -/
inductive Declared : Classes → Prop where
  | nil : Declared []
  | declare {classes next : Classes} (decl : ClassDecl) (earlier : Declared classes)
      (fresh : classes.find? decl.name = none)
      (bases : ∀ base ∈ decl.effectiveBases, classes.Knows base)
      (declared : classes.declare decl = some next) : Declared next

variable {classes next : Classes} {decl : ClassDecl} {c b : ClassRef}

/-! ## One more class -/

theorem declare_eq_some (h : classes.declare decl = some next) :
    ∃ rest, Lineage.merge (decl.effectiveBases.map classes.lineageOf ++ [decl.effectiveBases]) =
        some rest ∧ next = classes ++ [⟨decl, .declared decl.name :: rest⟩] :=
  let ⟨rest, hrest, hnext⟩ := Option.map_eq_some_iff.mp h
  ⟨rest, hrest, hnext.symm⟩

theorem find?_declare_of_ne (h : classes.declare decl = some next) {name : String}
    (hne : name ≠ decl.name) : next.find? name = classes.find? name := by
  obtain ⟨rest, -, rfl⟩ := declare_eq_some h
  have hbeq : (decl.name == name) = false := beq_eq_false_iff_ne.mpr (Ne.symm hne)
  simp [find?, List.find?_append, hbeq]

theorem knows_declare (h : classes.declare decl = some next) (hc : classes.Knows c) :
    next.Knows c := by
  cases c with
  | builtin b => trivial
  | declared name =>
      obtain ⟨rest, -, rfl⟩ := declare_eq_some h
      obtain ⟨found, hfound⟩ := Option.isSome_iff_exists.mp hc
      have hfind : List.find? (fun c => c.decl.name == name) classes = some found := hfound
      simp [Knows, find?, List.find?_append, hfind]

theorem lineageOf_declare_of_ne (h : classes.declare decl = some next)
    (hne : c ≠ .declared decl.name) : next.lineageOf c = classes.lineageOf c := by
  cases c with
  | builtin b => rfl
  | declared name =>
      have hname : name ≠ decl.name := fun heq => hne (congrArg ClassRef.declared heq)
      simp only [lineageOf, find?_declare_of_ne h hname]

theorem knows_of_knows_declare (h : classes.declare decl = some next)
    (hne : c ≠ .declared decl.name) (hc : next.Knows c) : classes.Knows c := by
  cases c with
  | builtin b => trivial
  | declared name =>
      have hname : name ≠ decl.name := fun heq => hne (congrArg ClassRef.declared heq)
      simpa only [Knows, find?_declare_of_ne h hname] using hc

theorem ne_of_knows (hfresh : classes.find? decl.name = none) (hc : classes.Knows c) :
    c ≠ .declared decl.name := by
  rintro rfl
  simp [Knows, hfresh] at hc

/-- The lineage of a new class: itself, then what the lineages of its bases hold. -/
theorem lineageOf_declare_self (hfresh : classes.find? decl.name = none)
    (h : classes.declare decl = some next) :
    ∃ rest, next.lineageOf (.declared decl.name) = .declared decl.name :: rest ∧
      ∀ b, b ∈ rest ↔ b ∈ decl.effectiveBases ∨
        ∃ base ∈ decl.effectiveBases, b ∈ classes.lineageOf base := by
  obtain ⟨rest, hrest, rfl⟩ := declare_eq_some h
  have hfind : List.find? (fun c => c.decl.name == decl.name) classes = none := hfresh
  refine ⟨rest, by simp [lineageOf, find?, List.find?_append, hfind], fun b => ?_⟩
  rw [Lineage.mem_merge_iff hrest]
  constructor
  · rintro ⟨line, hline, hb⟩
    rcases List.mem_append.mp hline with hline | hline
    · obtain ⟨base, hbase, rfl⟩ := List.mem_map.mp hline
      exact .inr ⟨base, hbase, hb⟩
    · rw [List.mem_singleton.mp hline] at hb
      exact .inl hb
  · rintro (hb | ⟨base, hbase, hb⟩)
    · exact ⟨decl.effectiveBases, by simp, hb⟩
    · exact ⟨_, List.mem_append_left _ (List.mem_map.mpr ⟨base, hbase, rfl⟩), hb⟩

/-! ## Lineages of declared classes -/

theorem ancestors_trans {a b : Builtin} (h : a ∈ b.ancestors) : a.ancestors ⊆ b.ancestors := by
  cases b <;> revert a <;> decide

/-- The lineage of a declared class begins with the class itself. -/
theorem lineageOf_declared (h : classes.Declared) (name : String) :
    ∃ rest, classes.lineageOf (.declared name) = .declared name :: rest := by
  induction h with
  | nil => exact ⟨_, rfl⟩
  | @declare classes next decl _ fresh _ declared ih =>
      by_cases hname : name = decl.name
      · obtain ⟨rest, hlineage, -⟩ := lineageOf_declare_self fresh declared
        exact ⟨rest, hname ▸ hlineage⟩
      · rw [lineageOf_declare_of_ne declared (by simpa using hname)]
        exact ih

theorem knows_of_mem_lineageOf (h : classes.Declared) (hc : classes.Knows c)
    (hb : b ∈ classes.lineageOf c) : classes.Knows b := by
  induction h generalizing c b with
  | nil =>
      cases c with
      | builtin a =>
          obtain ⟨ancestor, -, rfl⟩ := List.mem_map.mp hb
          trivial
      | declared name => simp [Knows, find?] at hc
  | @declare classes next decl _ fresh bases declared ih =>
      by_cases hself : c = .declared decl.name
      · obtain ⟨rest, hlineage, hrest⟩ := lineageOf_declare_self fresh declared
        rw [hself, hlineage] at hb
        rcases List.mem_cons.mp hb with rfl | hb
        · rwa [← hself]
        · rcases (hrest b).mp hb with hbase | ⟨base, hbase, hb⟩
          · exact knows_declare declared (bases b hbase)
          · exact knows_declare declared (ih (bases base hbase) hb)
      · rw [lineageOf_declare_of_ne declared hself] at hb
        exact knows_declare declared (ih (knows_of_knows_declare declared hself hc) hb)

theorem lineageOf_trans_of_knows (h : classes.Declared) (hc : classes.Knows c)
    (hb : b ∈ classes.lineageOf c) : classes.lineageOf b ⊆ classes.lineageOf c := by
  induction h generalizing c b with
  | nil =>
      cases c with
      | builtin a =>
          obtain ⟨ancestor, hancestor, rfl⟩ := List.mem_map.mp hb
          exact List.map_subset _ (ancestors_trans hancestor)
      | declared name => simp [Knows, find?] at hc
  | @declare classes next decl earlier fresh bases declared ih =>
      by_cases hself : c = .declared decl.name
      · subst hself
        obtain ⟨rest, hlineage, hrest⟩ := lineageOf_declare_self fresh declared
        rw [hlineage] at hb ⊢
        rcases List.mem_cons.mp hb with rfl | hb
        · rw [hlineage]
          exact List.Subset.refl _
        · -- An ancestor of the new class is older than it, so its lineage is what it was.
          have holder : classes.Knows b ∧ classes.lineageOf b ⊆ rest := by
            rcases (hrest b).mp hb with hbase | ⟨base, hbase, hb⟩
            · exact ⟨bases b hbase, fun a ha => (hrest a).mpr (.inr ⟨b, hbase, ha⟩)⟩
            · have hsubset := ih (bases base hbase) hb
              exact ⟨knows_of_mem_lineageOf earlier (bases base hbase) hb,
                fun a ha => (hrest a).mpr (.inr ⟨base, hbase, hsubset ha⟩)⟩
          rw [lineageOf_declare_of_ne declared (ne_of_knows fresh holder.1)]
          exact List.Subset.trans holder.2 (List.subset_cons_self _ _)
      · have hknown := knows_of_knows_declare declared hself hc
        rw [lineageOf_declare_of_ne declared hself] at hb ⊢
        have hold := ne_of_knows fresh (knows_of_mem_lineageOf earlier hknown hb)
        rw [lineageOf_declare_of_ne declared hold]
        exact ih hknown hb

/-- The ancestors of an ancestor are ancestors. -/
theorem lineageOf_trans (h : classes.Declared) (hb : b ∈ classes.lineageOf c) :
    classes.lineageOf b ⊆ classes.lineageOf c := by
  by_cases hc : classes.Knows c
  · exact lineageOf_trans_of_knows h hc hb
  · cases c with
    | builtin a => exact absurd trivial hc
    | declared name =>
        have hlineage : classes.lineageOf (.declared name) = [.declared name, .builtin .object] := by
          simp only [Knows, Bool.not_eq_true, Option.isSome_eq_false_iff,
            Option.isNone_iff_eq_none] at hc
          simp [lineageOf, hc]
        rw [hlineage] at hb
        rcases List.mem_cons.mp hb with rfl | hb
        · exact List.Subset.refl _
        · rw [List.mem_singleton.mp hb, hlineage]
          simp [lineageOf, Builtin.ancestors]

end Classes

end Memberwise
