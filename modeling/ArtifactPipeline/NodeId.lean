import ArtifactPipeline.Path.Basic

set_option autoImplicit false

namespace ArtifactPipeline

abbrev NodeId := String

namespace NodeId

def canonicalText (raw : List Char) : List Char :=
  let trimmed := Text.trim raw
  let parts := (Text.splitOn '/' trimmed).filter fun part => !Path.isIdle part
  let joined := Text.joinWith ['/'] parts
  if Path.isAbsoluteText trimmed then '/' :: joined
  else if joined.isEmpty then ['.']
  else joined

def canonical (raw : String) : NodeId :=
  String.ofList (canonicalText raw.toList)

def ofPath (path : Path) : NodeId :=
  String.ofList (canonicalText (Text.exchange '\\' '/' path.text.toList))

end NodeId

end ArtifactPipeline
