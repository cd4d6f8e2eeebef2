import TaggedConfig.Proofs.Expansion.Machine
import TaggedConfig.Proofs.Expansion.References
import TaggedConfig.Proofs.Source.Traces

/-! The end of every expansion.
Main statement: an expansion ends, since its loops get shorter and its calls go deeper up to the
ceiling. Values that refer to each other are never expanded, whatever the ceiling is.
-/

namespace TaggedConfig

open Run

namespace Expander

variable {σ : Type} [Host (StateM σ)]

/-- An expansion ends with what it comes to, whatever refers to what. Each tag takes at least seven
bytes from those that a loop has left, however long its replacement is, so that no call comes to
more tags than a seventh of its bytes. Calls are made within the ceiling, and each one is deeper
than those that wait for it. Where every value has a whole tag for a variable, nothing that has one
is ever expanded.
-/
theorem expansion_ends (expander : Expander (StateM σ))
    : (∀ depth data s,
          expander.Steps ⟨.call depth data, [], s⟩
              (.answering (outcome (expander.expand data depth) s) [])
          ∧ Acc (fun next machine => expander.Step machine next) ⟨.call depth data, [], s⟩)
      ∧ (∀ depth data s machine,
          expander.Steps ⟨.call depth data, [], s⟩ machine →
            (∀ loop,
              machine.activity = .search loop →
                7 * loop.taken + loop.cursor.remaining ≤ loop.size)
            ∧ (∀ caller ∈ machine.callers,
                caller.loop.taken ≤ caller.loop.size / 7
                ∧ caller.loop.depth ≤ expander.ceiling
                ∧ ∀ replacement,
                    (caller.loop.splice caller.tag replacement).cursor.remaining + 7
                      ≤ caller.loop.cursor.remaining)
            ∧ machine.depths.Pairwise (· > ·))
      ∧ ∀ P,
          expander.RefersOn P →
            ∀ ceiling data depth s,
              P s →
              Tag.HasVariable data →
                ∀ result,
                  (outcome ((expander.under ceiling).expand data depth) s).1 ≠ .ok result := by
  refine ⟨fun depth data s => ⟨expander.steps_call depth data [] s, expander.acc_call depth data s⟩,
    fun depth data s machine steps => ?_, fun P refers ceiling data depth s holds has result => ?_⟩
  · have orderly := steps.orderly (Machine.orderly_call expander.ceiling depth data s)
    refine ⟨fun loop active => (orderly.loop loop active).1.shorter, fun caller member => ?_,
      orderly.deeper⟩
    obtain ⟨shrinks, within, -⟩ := orderly.callers caller member
    have shorter := shrinks.shorter
    exact ⟨by omega, within, Cursor.remaining_splice_add_le shrinks.found⟩
  · intro expanded
    exact (refers.neverSucceeds_expandWithin ceiling _ depth has s holds).2 result expanded

end Expander

-----------------------------------------------------------------------------------------
-- Variables that refer to each other
-----------------------------------------------------------------------------------------

/-- What is found under a name is what follows the name and an equals sign in an entry. -/
theorem Environment.exists_entry {environment : Environment} {name : String} {value : Bytes}
    (found : environment.lookup name = some value)
    : ∃ entry ∈ environment,
        Utf8.encode entry.1 ++ ascii "=" ++ entry.2 = Utf8.encode name ++ ascii "=" ++ value := by
  unfold lookup at found
  split at found
  · contradiction
  · obtain ⟨entry, member, rest⟩ := List.exists_of_findSome?_eq_some found
    dsimp only at rest
    split at rest
    · rename_i begins
      obtain rfl := Option.some.inj rest
      have whole := List.prefix_iff_eq_append.mp (List.isPrefixOf_iff_prefix.mp begins)
      exact ⟨entry, member, whole.symm⟩
    · contradiction

/-- Two variables that refer to each other. -/
def mutualWorld : World where
  environment := [("A", ascii "$\x7bENV:B\x7d"), ("B", ascii "$\x7bENV:A\x7d")]

theorem hasVariable_mutualWorld
    : ∀ entry ∈ mutualWorld.environment, Tag.HasVariable entry.2 := by
  have whole {data : Bytes} (opened : Tag.opening? data = some .variable)
      (closed : Tag.closing? 0 6 (data.drop 6) = some 7)
      : Tag.HasVariable data :=
    ⟨0, 7, Tag.opensAt_iff.mpr opened, (Tag.closing?_eq_some_iff.mp closed).1⟩
  refine List.forall_mem_cons.mpr ⟨?_, List.forall_mem_singleton.mpr ?_⟩ <;>
    exact whole (by decide +kernel) (by decide +kernel)

/-- The only equals sign of an entry is the one after its name, so what is found is its value. -/
theorem hasVariable_of_lookup {name : String} {value : Bytes}
    (found : mutualWorld.environment.lookup name = some value)
    : Tag.HasVariable value := by
  obtain ⟨entry, member, whole⟩ := Environment.exists_entry found
  have parted
      : ∀ entry ∈ mutualWorld.environment,
          (∀ place < 10,
            (Utf8.encode entry.1 ++ ascii "=" ++ entry.2)[place]? = some (byte '=') → place = 1)
          ∧ (Utf8.encode entry.1 ++ ascii "=" ++ entry.2).length = 10
          ∧ (Utf8.encode entry.1 ++ ascii "=" ++ entry.2).drop 2 = entry.2 := by
    decide +kernel
  obtain ⟨only, size, rest⟩ := parted entry member
  rw [whole] at only size rest
  have single : (ascii "=").length = 1 := by decide
  have place : (Utf8.encode name).length = 1 := by
    rw [List.length_append, List.length_append, single] at size
    refine only _ (by omega) ?_
    rw [List.append_assoc, List.getElem?_append_right (Nat.le_refl _), Nat.sub_self]
    rfl
  have same : value = entry.2 := by
    rw [← rest, List.drop_left' (by rw [List.length_append, place, single])]
  rw [same]
  exact hasVariable_mutualWorld entry member

/-- An expander of the built-in loaders keeps the two values. -/
theorem refersOn_mutualWorld
    : ({ chain := Chain.builtin } : Expander (StateM World)).RefersOn
        fun world => world.environment = mutualWorld.environment where
  logged _ _ _ same := same
  loaded descriptor world same := by
    obtain ⟨result, traces, -, runs⟩ := LeavesTraces.builtin {} descriptor world
    rw [runs world (.refl world)]
    exact same
  looked name world same := by
    refine ⟨same, ?_⟩
    rintro _ ⟨rfl⟩ value found
    rw [same] at found
    exact hasVariable_of_lookup found

/-- The two variables are looked up until there are too many levels, and no ceiling is enough. -/
theorem expansion_ends_mutual
    : (∃ s,
          ({ chain := Chain.builtin } : Expander (StateM World)).Steps
            ⟨.call 0 (ascii "$\x7bENV:A\x7d"), [], mutualWorld⟩
            ⟨.answer (.error (.ofFault (.tooManyLevels 4))), [], s⟩)
      ∧ ∀ ceiling depth result,
          (outcome
              (Expander.expand { chain := Chain.builtin, ceiling } (ascii "$\x7bENV:A\x7d") depth)
              mutualWorld).1
            ≠ .ok result := by
  let expander : Expander (StateM World) := { chain := Chain.builtin }
  obtain ⟨ends, -, never⟩ := expander.expansion_ends
  have steps := (ends 0 (ascii "$\x7bENV:A\x7d") mutualWorld).1
  have deep
      : (outcome (expander.expand (ascii "$\x7bENV:A\x7d")) mutualWorld).1
        = .error (.ofFault (.tooManyLevels 4)) := by
    decide +kernel
  rw [Machine.answering, deep] at steps
  refine ⟨⟨_, steps⟩, fun ceiling depth => ?_⟩
  have has := hasVariable_mutualWorld ("B", ascii "$\x7bENV:A\x7d") (by decide)
  exact never _ refersOn_mutualWorld ceiling _ depth mutualWorld rfl has

end TaggedConfig
