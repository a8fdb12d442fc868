import Fiber.App

/-! The groups of `group.go`. Each method composes the group's prefix with its own path
by `groupPaths` before it registers on the app. -/
namespace Fiber

variable {F ρ : Type} (r : Router F ρ)

/-- `Group(prefix, handlers...)` on a group: the new group's prefix extends this one. -/
def Group.group (grp : Group) (pfx : String) (handlers : List F) :
    EStateM String (App F ρ) Group := do
  let pfx := r.groupPaths grp.pfx pfx
  if handlers.length > 0 then r.registerMethod "USE" pfx handlers
  pure ⟨pfx⟩

def Group.static (grp : Group) (pfx root : String) (config : List Static) :
    EStateM String (App F ρ) Unit :=
  r.registerStatic (r.groupPaths grp.pfx pfx) root config

/-- `Use(args...)` on a group: the loop of `App.Use`, then the prefix on the path. -/
def Group.use (grp : Group) (args : List (Value F)) : EStateM String (App F ρ) Unit :=
  match useArgs args with
  | .ok st => r.registerMethod "USE" (r.groupPaths grp.pfx st.path) st.handlers
  | .error msg => throw msg

def Group.connect (grp : Group) (path : String) (handlers : List F) :
    EStateM String (App F ρ) Unit :=
  r.registerMethod "CONNECT" (r.groupPaths grp.pfx path) handlers

def Group.put (grp : Group) (path : String) (handlers : List F) :
    EStateM String (App F ρ) Unit :=
  r.registerMethod "PUT" (r.groupPaths grp.pfx path) handlers

def Group.post (grp : Group) (path : String) (handlers : List F) :
    EStateM String (App F ρ) Unit :=
  r.registerMethod "POST" (r.groupPaths grp.pfx path) handlers

def Group.delete (grp : Group) (path : String) (handlers : List F) :
    EStateM String (App F ρ) Unit :=
  r.registerMethod "DELETE" (r.groupPaths grp.pfx path) handlers

def Group.head (grp : Group) (path : String) (handlers : List F) :
    EStateM String (App F ρ) Unit :=
  r.registerMethod "HEAD" (r.groupPaths grp.pfx path) handlers

def Group.patch (grp : Group) (path : String) (handlers : List F) :
    EStateM String (App F ρ) Unit :=
  r.registerMethod "PATCH" (r.groupPaths grp.pfx path) handlers

def Group.options (grp : Group) (path : String) (handlers : List F) :
    EStateM String (App F ρ) Unit :=
  r.registerMethod "OPTIONS" (r.groupPaths grp.pfx path) handlers

def Group.trace (grp : Group) (path : String) (handlers : List F) :
    EStateM String (App F ρ) Unit :=
  r.registerMethod "TRACE" (r.groupPaths grp.pfx path) handlers

def Group.get (grp : Group) (path : String) (handlers : List F) :
    EStateM String (App F ρ) Unit :=
  r.registerMethod "GET" (r.groupPaths grp.pfx path) handlers

def Group.all (grp : Group) (path : String) (handlers : List F) :
    EStateM String (App F ρ) Unit :=
  r.registerMethod "ALL" (r.groupPaths grp.pfx path) handlers

def Group.webSocket (grp : Group) (path : String) (handle : F) :
    EStateM String (App F ρ) Unit :=
  r.registerWebSocket "GET" (r.groupPaths grp.pfx path) handle

/-- `Recover` on a group sets the handler of the whole app. -/
def Group.setRecover (_grp : Group) (handler : F) : App F ρ → App F ρ :=
  App.setRecover handler

end Fiber
