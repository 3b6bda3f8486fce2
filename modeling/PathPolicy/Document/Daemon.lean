import PathPolicy.CommandLine
import PathPolicy.Document.Configuration

/-!
# What keeps a daemon from working, as documents

Reasons that a file system or a reader of configurations gives are left out.
-/

namespace PathPolicy

instance : Described CommandLine.Stop := ⟨fun s => .record [("error", .text ("Cli." ++ s.name))]⟩

instance : Described DaemonError :=
  ⟨fun e =>
    let bare (kind : String) : Document := .record [("error", .text kind)]
    match e with
    | .policy cause => .error ("Policy." ++ cause.kindName) e.message
    | .unreadableConfiguration .. => bare "Daemon.ConfigRead"
    | .malformedConfiguration _ => bare "Daemon.TomlParsing"
    | .alreadyRunning _ => bare "Daemon.AlreadyRunning"
    | .io _ => bare "Daemon.Io"⟩

instance : Readable Site :=
  ⟨fun
    | .absent => some .vacant
    | .text "stale_socket" => some .staleSocket
    | .text "file" => some .file
    | .text "directory" => some .directory
    | .text "live" => some .occupied
    | .text "no_parent" => some .missingParent
    | _ => none⟩

end PathPolicy
