import Mathlib.Tactic

/-!
# Maps filled by repeated writes

A map is a partial function.  A write stores one value at a set of keys.
After a sequence of writes into the empty map, what is found was written, and
every key that was written is found; which of several values is found at a key
depends on the order and is left open.
-/

namespace MapWrites

variable {K V : Type} {before after last : K → Option V}
variable {keys keys' : K → Prop} {value : V}

/-- `after` is `before` with `value` stored at `keys`. -/
structure Writes (before after : K → Option V) (keys : K → Prop)
    (value : V) : Prop where
  hin : ∀ k, keys k → after k = some value
  hout : ∀ k, ¬ keys k → after k = before k

theorem Writes.none (map : K → Option V) (value : V) :
    Writes map map (fun _ => False) value where
  hin _ hkey := hkey.elim
  hout _ _ := rfl

theorem Writes.trans (hfirst : Writes before after keys value)
    (hsecond : Writes after last keys' value) :
    Writes before last (fun k => keys k ∨ keys' k) value where
  hin k hkey := by
    by_cases hlate : keys' k
    · exact hsecond.hin k hlate
    · rw [hsecond.hout k hlate]
      exact hfirst.hin k (hkey.resolve_right hlate)
  hout k hkey := by
    rw [hsecond.hout k fun hlate => hkey (.inr hlate)]
    exact hfirst.hout k fun hearly => hkey (.inl hearly)

theorem Writes.congr (hwrites : Writes before after keys value)
    (hsame : ∀ k, keys k ↔ keys' k) : Writes before after keys' value where
  hin k hkey := hwrites.hin k ((hsame k).mpr hkey)
  hout k hkey := hwrites.hout k fun hin => hkey ((hsame k).mp hin)

/-- What is found was written, and each key written is found. -/
structure Holds (map : K → Option V) (written : K → V → Prop) : Prop where
  sound : ∀ k v, map k = some v → written k v
  complete : ∀ k v, written k v → (map k).isSome

variable {map : K → Option V} {written written' : K → V → Prop}

theorem Holds.isSome_iff (hholds : Holds map written) (k : K) :
    (map k).isSome ↔ ∃ v, written k v := by
  constructor
  · intro hsome
    obtain ⟨v, hv⟩ := Option.isSome_iff_exists.mp hsome
    exact ⟨v, hholds.sound k v hv⟩
  · rintro ⟨v, hv⟩
    exact hholds.complete k v hv

theorem Holds.congr (hholds : Holds map written)
    (hsame : ∀ k v, written k v ↔ written' k v) : Holds map written' where
  sound k v hv := (hsame k v).mp (hholds.sound k v hv)
  complete k v hv := hholds.complete k v ((hsame k v).mpr hv)

theorem Holds.writes (hholds : Holds before written)
    (hwrites : Writes before after keys value) :
    Holds after fun k v => written k v ∨ keys k ∧ v = value where
  sound k v hv := by
    by_cases hkey : keys k
    · rw [hwrites.hin k hkey] at hv
      exact .inr ⟨hkey, (Option.some.inj hv).symm⟩
    · rw [hwrites.hout k hkey] at hv
      exact .inl (hholds.sound k v hv)
  complete k v hv := by
    by_cases hkey : keys k
    · rw [hwrites.hin k hkey]
      rfl
    · rw [hwrites.hout k hkey]
      exact hholds.complete k v (hv.resolve_right fun hlate => hkey hlate.1)

end MapWrites
