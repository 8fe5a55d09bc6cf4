import ScriptValues.Terminal.Render
import ScriptValues.Ty.Registry
import ScriptValues.Value.Writing
import ScriptValues.Value.DeepCopy
import ScriptValues.Value.Default
import ScriptValues.Value.Prototype
import ScriptValues.TableHost.Embedding
import ScriptValues.Proofs.Scope.Release
import ScriptValues.Proofs.Scope.Lending
import ScriptValues.Proofs.Copy.Scopes
import ScriptValues.Proofs.Copy.Reproduction
import ScriptValues.Proofs.Translation.Lifecycle
import ScriptValues.Proofs.Collection.Refill
import ScriptValues.Proofs.Equality.Filling
import ScriptValues.Proofs.Creation.Default
import ScriptValues.Proofs.Creation.Exposure
import ScriptValues.Proofs.Failure.LostScope
import ScriptValues.Proofs.Failure.Write
import ScriptValues.Proofs.World.Ownership
import ScriptValues.Proofs.World.Assignment
import ScriptValues.Proofs.World.Rehoming
import ScriptValues.Proofs.Host.Coherence
import ScriptValues.Proofs.Call.Resolution
import ScriptValues.Proofs.Call.Agreement
import ScriptValues.Proofs.Call.Order
import ScriptValues.Proofs.Ty.Registration
import ScriptValues.Proofs.Ty.Congruence
import ScriptValues.Proofs.Collection.Hashed
import ScriptValues.Proofs.World.Printing
import ScriptValues.Proofs.World.Templates
