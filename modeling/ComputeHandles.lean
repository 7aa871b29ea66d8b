import ComputeHandles.Device.Enumerate
import ComputeHandles.Handle.Session
import ComputeHandles.Proofs.Filter.FirstFault
import ComputeHandles.Proofs.Filter.Joined
import ComputeHandles.Proofs.Filter.Rereading
import ComputeHandles.Proofs.Filter.Spelling
import ComputeHandles.Proofs.Handle.BinaryBuilds
import ComputeHandles.Proofs.Handle.Boundary
import ComputeHandles.Proofs.Handle.Complaint
import ComputeHandles.Proofs.Handle.ErrorTexts
import ComputeHandles.Proofs.Handle.FilterStrings
import ComputeHandles.Proofs.Handle.KernelNames
import ComputeHandles.Proofs.Handle.LastError
import ComputeHandles.Proofs.Handle.QueueProperties
import ComputeHandles.Proofs.Handle.Selection
import ComputeHandles.Proofs.Handle.Texts
import ComputeHandles.Proofs.Registry.Lineage
import ComputeHandles.Proofs.Selector.Hosts
import ComputeHandles.Proofs.Selector.Restriction
import ComputeHandles.Proofs.Selector.Union
import ComputeHandles.Proofs.Spirv.Answers
import ComputeHandles.Proofs.Spirv.Overrun
import ComputeHandles.Proofs.Spirv.RoundTrip
import ComputeHandles.Proofs.Text.Quoted
import ComputeHandles.Registry
