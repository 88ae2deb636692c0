import MakeLens.Json

/-! # Overlaying JSON values

  One value laid over another replaces it, except that objects are laid over each
  other member by member and `null` replaces nothing.
-/

namespace MakeLens.Json

mutual

/-- The value `top` laid over `base`. -/
def overlay (base : Json) (top : Json) : Json :=
  match base, top with
  | .obj members, .obj added => .obj (overlayMembers members added)
  | base, .null => base
  | _, top => top

/-- Members laid over members, one after the other. -/
def overlayMembers (members : List (String × Json)) : List (String × Json) → List (String × Json)
  | [] => members
  | (key, value) :: rest =>
    let merged :=
      if value.isNull then members
      else match member? key members with
        | some below => putMember key (overlay below value) members
        | none => putMember key value members
    overlayMembers merged rest

end

end MakeLens.Json
