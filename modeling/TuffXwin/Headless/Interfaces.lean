import Mathlib.Tactic.Common

/-! The interfaces the protocol core knows, and what the merged protocol specification
declares of them: the arguments of every request and event in the order of the opcodes.
`wl_output` is announced and bound, but no specification file declares it. -/

namespace TuffXwin.Headless

inductive Interface
  | wlDisplay | wlRegistry | wlCallback | wlCompositor | wlShmPool | wlShm | wlBuffer
  | wlSurface | wlRegion | wlSeat | wlPointer | wlKeyboard | wlTouch | wlOutput | wlDataOffer
  | wlDataSource | wlDataDevice | wlDataDeviceManager | wlSubcompositor | wlSubsurface
  | xdgWmBase | xdgPositioner | xdgSurface | xdgToplevel | xdgPopup | zwpTextInputV3
  | zwpTextInputManagerV3 | zwpInputMethodV2 | zwpInputPopupSurfaceV2 | zwpInputMethodManagerV2
  | wpViewporter | wpViewport | wpPresentation | wpPresentationFeedback
  | wpFractionalScaleManagerV1 | wpFractionalScaleV1 | zxdgDecorationManagerV1
  | zxdgToplevelDecorationV1 | zxdgOutputManagerV1 | zxdgOutputV1 | zwlrOutputManagerV1
  | zwlrOutputHeadV1 | zwlrOutputModeV1 | zwlrOutputConfigurationV1
  | zwlrOutputConfigurationHeadV1 | zwlrScreencopyManagerV1 | zwlrScreencopyFrameV1
  | extImageCopyCaptureManagerV1 | extImageCopyCaptureSessionV1 | extImageCopyCaptureFrameV1
  | zwlrLayerShellV1 | zwlrLayerSurfaceV1 | zwpIdleInhibitManagerV1 | zwpIdleInhibitorV1
  | zwpRelativePointerManagerV1 | zwpRelativePointerV1 | zwpPointerConstraintsV1
  | zwpLockedPointerV1 | zwpConfinedPointerV1
  deriving DecidableEq, Repr

def Interface.name : Interface → String
  | .wlDisplay => "wl_display"
  | .wlRegistry => "wl_registry"
  | .wlCallback => "wl_callback"
  | .wlCompositor => "wl_compositor"
  | .wlShmPool => "wl_shm_pool"
  | .wlShm => "wl_shm"
  | .wlBuffer => "wl_buffer"
  | .wlSurface => "wl_surface"
  | .wlRegion => "wl_region"
  | .wlSeat => "wl_seat"
  | .wlPointer => "wl_pointer"
  | .wlKeyboard => "wl_keyboard"
  | .wlTouch => "wl_touch"
  | .wlOutput => "wl_output"
  | .wlDataOffer => "wl_data_offer"
  | .wlDataSource => "wl_data_source"
  | .wlDataDevice => "wl_data_device"
  | .wlDataDeviceManager => "wl_data_device_manager"
  | .wlSubcompositor => "wl_subcompositor"
  | .wlSubsurface => "wl_subsurface"
  | .xdgWmBase => "xdg_wm_base"
  | .xdgPositioner => "xdg_positioner"
  | .xdgSurface => "xdg_surface"
  | .xdgToplevel => "xdg_toplevel"
  | .xdgPopup => "xdg_popup"
  | .zwpTextInputV3 => "zwp_text_input_v3"
  | .zwpTextInputManagerV3 => "zwp_text_input_manager_v3"
  | .zwpInputMethodV2 => "zwp_input_method_v2"
  | .zwpInputPopupSurfaceV2 => "zwp_input_popup_surface_v2"
  | .zwpInputMethodManagerV2 => "zwp_input_method_manager_v2"
  | .wpViewporter => "wp_viewporter"
  | .wpViewport => "wp_viewport"
  | .wpPresentation => "wp_presentation"
  | .wpPresentationFeedback => "wp_presentation_feedback"
  | .wpFractionalScaleManagerV1 => "wp_fractional_scale_manager_v1"
  | .wpFractionalScaleV1 => "wp_fractional_scale_v1"
  | .zxdgDecorationManagerV1 => "zxdg_decoration_manager_v1"
  | .zxdgToplevelDecorationV1 => "zxdg_toplevel_decoration_v1"
  | .zxdgOutputManagerV1 => "zxdg_output_manager_v1"
  | .zxdgOutputV1 => "zxdg_output_v1"
  | .zwlrOutputManagerV1 => "zwlr_output_manager_v1"
  | .zwlrOutputHeadV1 => "zwlr_output_head_v1"
  | .zwlrOutputModeV1 => "zwlr_output_mode_v1"
  | .zwlrOutputConfigurationV1 => "zwlr_output_configuration_v1"
  | .zwlrOutputConfigurationHeadV1 => "zwlr_output_configuration_head_v1"
  | .zwlrScreencopyManagerV1 => "zwlr_screencopy_manager_v1"
  | .zwlrScreencopyFrameV1 => "zwlr_screencopy_frame_v1"
  | .extImageCopyCaptureManagerV1 => "ext_image_copy_capture_manager_v1"
  | .extImageCopyCaptureSessionV1 => "ext_image_copy_capture_session_v1"
  | .extImageCopyCaptureFrameV1 => "ext_image_copy_capture_frame_v1"
  | .zwlrLayerShellV1 => "zwlr_layer_shell_v1"
  | .zwlrLayerSurfaceV1 => "zwlr_layer_surface_v1"
  | .zwpIdleInhibitManagerV1 => "zwp_idle_inhibit_manager_v1"
  | .zwpIdleInhibitorV1 => "zwp_idle_inhibitor_v1"
  | .zwpRelativePointerManagerV1 => "zwp_relative_pointer_manager_v1"
  | .zwpRelativePointerV1 => "zwp_relative_pointer_v1"
  | .zwpPointerConstraintsV1 => "zwp_pointer_constraints_v1"
  | .zwpLockedPointerV1 => "zwp_locked_pointer_v1"
  | .zwpConfinedPointerV1 => "zwp_confined_pointer_v1"

inductive ArgType
  | int | uint | fixed | string | object | newId | array | fd
  deriving DecidableEq, Repr

structure MessageSpec where
  name : String
  args : List ArgType
  deriving DecidableEq, Repr

structure InterfaceSpec where
  requests : List MessageSpec
  events : List MessageSpec
  deriving DecidableEq, Repr

/-- `p13_protocol_spec`; an interface declared twice is declared alike. -/
def p13ProtocolSpec : Interface → Option InterfaceSpec
  | .wlOutput => none
  | .wlDisplay => some {
        requests := [⟨"sync", [.newId]⟩, ⟨"get_registry", [.newId]⟩]
        events := [⟨"error", [.object, .uint, .string]⟩, ⟨"delete_id", [.uint]⟩] }
  | .wlRegistry => some {
        requests := [⟨"bind", [.uint, .string, .uint, .newId]⟩]
        events := [⟨"global", [.uint, .string, .uint]⟩, ⟨"global_remove", [.uint]⟩] }
  | .wlCallback => some {
        requests := []
        events := [⟨"done", [.uint]⟩] }
  | .wlCompositor => some {
        requests := [⟨"create_surface", [.newId]⟩, ⟨"create_region", [.newId]⟩]
        events := [] }
  | .wlShmPool => some {
        requests := [
          ⟨"create_buffer", [.newId, .int, .int, .int, .int, .uint]⟩, ⟨"destroy", []⟩,
          ⟨"resize", [.int]⟩]
        events := [] }
  | .wlShm => some {
        requests := [⟨"create_pool", [.newId, .fd, .int]⟩]
        events := [⟨"format", [.uint]⟩] }
  | .wlBuffer => some {
        requests := [⟨"destroy", []⟩]
        events := [⟨"release", []⟩] }
  | .wlSurface => some {
        requests := [
          ⟨"destroy", []⟩, ⟨"attach", [.object, .int, .int]⟩,
          ⟨"damage", [.int, .int, .int, .int]⟩, ⟨"frame", [.newId]⟩,
          ⟨"set_opaque_region", [.object]⟩, ⟨"set_input_region", [.object]⟩, ⟨"commit", []⟩,
          ⟨"set_buffer_transform", [.int]⟩, ⟨"set_buffer_scale", [.int]⟩,
          ⟨"damage_buffer", [.int, .int, .int, .int]⟩]
        events := [] }
  | .wlRegion => some {
        requests := [
          ⟨"destroy", []⟩, ⟨"add", [.int, .int, .int, .int]⟩,
          ⟨"subtract", [.int, .int, .int, .int]⟩]
        events := [] }
  | .wlSeat => some {
        requests := [
          ⟨"get_pointer", [.newId]⟩, ⟨"get_keyboard", [.newId]⟩, ⟨"get_touch", [.newId]⟩,
          ⟨"release", []⟩]
        events := [⟨"capabilities", [.uint]⟩, ⟨"name", [.string]⟩] }
  | .wlPointer => some {
        requests := [⟨"set_cursor", [.uint, .object, .int, .int]⟩, ⟨"release", []⟩]
        events := [
          ⟨"enter", [.uint, .object, .fixed, .fixed]⟩, ⟨"leave", [.uint, .object]⟩,
          ⟨"motion", [.uint, .fixed, .fixed]⟩, ⟨"button", [.uint, .uint, .uint, .uint]⟩,
          ⟨"axis", [.uint, .uint, .fixed]⟩, ⟨"frame", []⟩, ⟨"axis_source", [.uint]⟩,
          ⟨"axis_stop", [.uint, .uint]⟩, ⟨"axis_discrete", [.uint, .int]⟩] }
  | .wlKeyboard => some {
        requests := [⟨"release", []⟩]
        events := [
          ⟨"keymap", [.uint, .fd, .uint]⟩, ⟨"enter", [.uint, .object, .array]⟩,
          ⟨"leave", [.uint, .object]⟩, ⟨"key", [.uint, .uint, .uint, .uint]⟩,
          ⟨"modifiers", [.uint, .uint, .uint, .uint, .uint]⟩, ⟨"repeat_info", [.int, .int]⟩] }
  | .wlTouch => some {
        requests := [⟨"release", []⟩]
        events := [
          ⟨"down", [.uint, .uint, .object, .int, .fixed, .fixed]⟩, ⟨"up", [.uint, .uint, .int]⟩,
          ⟨"motion", [.uint, .int, .fixed, .fixed]⟩, ⟨"frame", []⟩, ⟨"cancel", []⟩] }
  | .wlDataOffer => some {
        requests := [
          ⟨"accept", [.uint, .string]⟩, ⟨"receive", [.string, .fd]⟩, ⟨"destroy", []⟩,
          ⟨"finish", []⟩, ⟨"set_actions", [.uint, .uint]⟩]
        events := [⟨"offer", [.string]⟩, ⟨"source_actions", [.uint]⟩, ⟨"action", [.uint]⟩] }
  | .wlDataSource => some {
        requests := [⟨"offer", [.string]⟩, ⟨"destroy", []⟩, ⟨"set_actions", [.uint]⟩]
        events := [
          ⟨"target", [.string]⟩, ⟨"send", [.string, .fd]⟩, ⟨"cancelled", []⟩,
          ⟨"dnd_drop_performed", []⟩, ⟨"dnd_finished", []⟩, ⟨"action", [.uint]⟩] }
  | .wlDataDevice => some {
        requests := [
          ⟨"start_drag", [.object, .object, .object, .uint]⟩,
          ⟨"set_selection", [.object, .uint]⟩, ⟨"release", []⟩]
        events := [
          ⟨"data_offer", [.newId]⟩, ⟨"enter", [.uint, .object, .fixed, .fixed, .object]⟩,
          ⟨"leave", []⟩, ⟨"motion", [.uint, .fixed, .fixed]⟩, ⟨"drop", []⟩,
          ⟨"selection", [.object]⟩] }
  | .wlDataDeviceManager => some {
        requests := [⟨"create_data_source", [.newId]⟩, ⟨"get_data_device", [.newId, .object]⟩]
        events := [] }
  | .wlSubcompositor => some {
        requests := [⟨"destroy", []⟩, ⟨"get_subsurface", [.newId, .object, .object]⟩]
        events := [] }
  | .wlSubsurface => some {
        requests := [
          ⟨"destroy", []⟩, ⟨"set_position", [.int, .int]⟩, ⟨"place_above", [.object]⟩,
          ⟨"place_below", [.object]⟩, ⟨"set_sync", []⟩, ⟨"set_desync", []⟩]
        events := [] }
  | .xdgWmBase => some {
        requests := [
          ⟨"destroy", []⟩, ⟨"create_positioner", [.newId]⟩,
          ⟨"get_xdg_surface", [.newId, .object]⟩, ⟨"pong", [.uint]⟩]
        events := [⟨"ping", [.uint]⟩] }
  | .xdgPositioner => some {
        requests := [
          ⟨"destroy", []⟩, ⟨"set_size", [.int, .int]⟩,
          ⟨"set_anchor_rect", [.int, .int, .int, .int]⟩, ⟨"set_anchor", [.uint]⟩,
          ⟨"set_gravity", [.uint]⟩, ⟨"set_constraint_adjustment", [.uint]⟩,
          ⟨"set_offset", [.int, .int]⟩]
        events := [] }
  | .xdgSurface => some {
        requests := [
          ⟨"destroy", []⟩, ⟨"get_toplevel", [.newId]⟩, ⟨"get_popup", [.newId, .object, .object]⟩,
          ⟨"set_window_geometry", [.int, .int, .int, .int]⟩, ⟨"ack_configure", [.uint]⟩]
        events := [⟨"configure", [.uint]⟩] }
  | .xdgToplevel => some {
        requests := [
          ⟨"destroy", []⟩, ⟨"set_parent", [.object]⟩, ⟨"set_title", [.string]⟩,
          ⟨"set_app_id", [.string]⟩]
        events := [⟨"configure", [.int, .int, .array]⟩, ⟨"close", []⟩] }
  | .xdgPopup => some {
        requests := [⟨"destroy", []⟩, ⟨"grab", [.object, .uint]⟩]
        events := [⟨"configure", [.int, .int, .int, .int]⟩, ⟨"popup_done", []⟩] }
  | .zwpTextInputV3 => some {
        requests := [
          ⟨"destroy", []⟩, ⟨"enable", []⟩, ⟨"disable", []⟩,
          ⟨"set_surrounding_text", [.string, .int, .int]⟩, ⟨"set_text_change_cause", [.uint]⟩,
          ⟨"set_content_type", [.uint, .uint]⟩,
          ⟨"set_cursor_rectangle", [.int, .int, .int, .int]⟩, ⟨"commit", []⟩]
        events := [
          ⟨"enter", [.object]⟩, ⟨"leave", [.object]⟩, ⟨"preedit_string", [.string, .int, .int]⟩,
          ⟨"commit_string", [.string]⟩, ⟨"delete_surrounding_text", [.uint, .uint]⟩,
          ⟨"done", [.uint]⟩] }
  | .zwpTextInputManagerV3 => some {
        requests := [⟨"destroy", []⟩, ⟨"get_text_input", [.newId, .object]⟩]
        events := [] }
  | .zwpInputMethodV2 => some {
        requests := [
          ⟨"destroy", []⟩, ⟨"commit_string", [.string]⟩,
          ⟨"set_preedit_string", [.string, .int, .int]⟩,
          ⟨"delete_surrounding_text", [.uint, .uint]⟩, ⟨"commit", [.uint]⟩,
          ⟨"get_input_popup_surface", [.newId, .object]⟩]
        events := [
          ⟨"activate", []⟩, ⟨"deactivate", []⟩, ⟨"surrounding_text", [.string, .int, .int]⟩,
          ⟨"text_change_cause", [.uint]⟩, ⟨"content_type", [.uint, .uint]⟩, ⟨"done", []⟩,
          ⟨"unavailable", []⟩] }
  | .zwpInputPopupSurfaceV2 => some {
        requests := [⟨"destroy", []⟩]
        events := [⟨"text_input_rectangle", [.int, .int, .int, .int]⟩] }
  | .zwpInputMethodManagerV2 => some {
        requests := [⟨"destroy", []⟩, ⟨"get_input_method", [.object, .newId]⟩]
        events := [] }
  | .wpViewporter => some {
        requests := [⟨"destroy", []⟩, ⟨"get_viewport", [.newId, .object]⟩]
        events := [] }
  | .wpViewport => some {
        requests := [
          ⟨"destroy", []⟩, ⟨"set_source", [.fixed, .fixed, .fixed, .fixed]⟩,
          ⟨"set_destination", [.int, .int]⟩]
        events := [] }
  | .wpPresentation => some {
        requests := [⟨"destroy", []⟩, ⟨"feedback", [.object, .newId]⟩]
        events := [⟨"clock_id", [.uint]⟩] }
  | .wpPresentationFeedback => some {
        requests := []
        events := [
          ⟨"sync_output", [.object]⟩,
          ⟨"presented", [.uint, .uint, .uint, .uint, .uint, .uint, .uint]⟩, ⟨"discarded", []⟩] }
  | .wpFractionalScaleManagerV1 => some {
        requests := [⟨"destroy", []⟩, ⟨"get_fractional_scale", [.newId, .object]⟩]
        events := [] }
  | .wpFractionalScaleV1 => some {
        requests := [⟨"destroy", []⟩]
        events := [⟨"preferred_scale", [.uint]⟩] }
  | .zxdgDecorationManagerV1 => some {
        requests := [⟨"destroy", []⟩, ⟨"get_toplevel_decoration", [.newId, .object]⟩]
        events := [] }
  | .zxdgToplevelDecorationV1 => some {
        requests := [⟨"destroy", []⟩, ⟨"set_mode", [.uint]⟩, ⟨"unset_mode", []⟩]
        events := [⟨"configure", [.uint]⟩] }
  | .zxdgOutputManagerV1 => some {
        requests := [⟨"destroy", []⟩, ⟨"get_xdg_output", [.newId, .object]⟩]
        events := [] }
  | .zxdgOutputV1 => some {
        requests := [⟨"destroy", []⟩]
        events := [
          ⟨"logical_position", [.int, .int]⟩, ⟨"logical_size", [.int, .int]⟩, ⟨"done", []⟩,
          ⟨"name", [.string]⟩, ⟨"description", [.string]⟩] }
  | .zwlrOutputManagerV1 => some {
        requests := [⟨"create_configuration", [.newId, .uint]⟩, ⟨"stop", []⟩]
        events := [⟨"head", [.newId]⟩, ⟨"done", [.uint]⟩, ⟨"finished", []⟩] }
  | .zwlrOutputHeadV1 => some {
        requests := [⟨"release", []⟩]
        events := [
          ⟨"name", [.string]⟩, ⟨"description", [.string]⟩, ⟨"physical_size", [.int, .int]⟩,
          ⟨"mode", [.newId]⟩, ⟨"enabled", [.int]⟩, ⟨"current_mode", [.object]⟩,
          ⟨"position", [.int, .int]⟩, ⟨"transform", [.int]⟩, ⟨"scale", [.fixed]⟩,
          ⟨"finished", []⟩, ⟨"make", [.string]⟩, ⟨"model", [.string]⟩,
          ⟨"serial_number", [.string]⟩] }
  | .zwlrOutputModeV1 => some {
        requests := [⟨"release", []⟩]
        events := [
          ⟨"size", [.int, .int]⟩, ⟨"refresh", [.int]⟩, ⟨"preferred", []⟩, ⟨"finished", []⟩] }
  | .zwlrOutputConfigurationV1 => some {
        requests := [
          ⟨"enable_head", [.newId, .object]⟩, ⟨"disable_head", [.object]⟩, ⟨"apply", []⟩,
          ⟨"test", []⟩, ⟨"destroy", []⟩]
        events := [⟨"succeeded", []⟩, ⟨"failed", []⟩, ⟨"cancelled", []⟩] }
  | .zwlrOutputConfigurationHeadV1 => some {
        requests := [
          ⟨"set_mode", [.object]⟩, ⟨"set_custom_mode", [.int, .int, .int]⟩,
          ⟨"set_position", [.int, .int]⟩, ⟨"set_transform", [.int]⟩, ⟨"set_scale", [.fixed]⟩]
        events := [] }
  | .zwlrScreencopyManagerV1 => some {
        requests := [
          ⟨"capture_output", [.newId, .int, .object]⟩,
          ⟨"capture_output_region", [.newId, .int, .object, .int, .int, .int, .int]⟩,
          ⟨"destroy", []⟩]
        events := [] }
  | .zwlrScreencopyFrameV1 => some {
        requests := [⟨"copy", [.object]⟩, ⟨"destroy", []⟩, ⟨"copy_with_damage", [.object]⟩]
        events := [
          ⟨"buffer", [.uint, .uint, .uint, .uint]⟩, ⟨"flags", [.uint]⟩,
          ⟨"ready", [.uint, .uint, .uint]⟩, ⟨"failed", []⟩,
          ⟨"damage", [.uint, .uint, .uint, .uint]⟩, ⟨"linux_dmabuf", [.uint, .uint, .uint]⟩,
          ⟨"buffer_done", []⟩] }
  | .extImageCopyCaptureManagerV1 => some {
        requests := [⟨"destroy", []⟩, ⟨"create_session", [.newId, .uint, .uint]⟩]
        events := [] }
  | .extImageCopyCaptureSessionV1 => some {
        requests := [⟨"destroy", []⟩, ⟨"create_frame", [.newId]⟩]
        events := [] }
  | .extImageCopyCaptureFrameV1 => some {
        requests := [⟨"copy", [.object]⟩, ⟨"destroy", []⟩]
        events := [
          ⟨"buffer", [.uint, .uint, .uint, .uint]⟩, ⟨"ready", []⟩, ⟨"failed", []⟩,
          ⟨"damage", [.uint, .uint, .uint, .uint]⟩] }
  | .zwlrLayerShellV1 => some {
        requests := [
          ⟨"get_layer_surface", [.newId, .object, .object, .uint, .string]⟩, ⟨"destroy", []⟩]
        events := [] }
  | .zwlrLayerSurfaceV1 => some {
        requests := [
          ⟨"set_size", [.uint, .uint]⟩, ⟨"set_anchor", [.uint]⟩, ⟨"set_exclusive_zone", [.int]⟩,
          ⟨"set_margin", [.int, .int, .int, .int]⟩, ⟨"set_keyboard_interactivity", [.uint]⟩,
          ⟨"get_popup", [.newId, .object]⟩, ⟨"ack_configure", [.uint]⟩, ⟨"set_layer", [.uint]⟩,
          ⟨"destroy", []⟩]
        events := [⟨"configure", [.uint, .uint, .uint]⟩, ⟨"closed", []⟩] }
  | .zwpIdleInhibitManagerV1 => some {
        requests := [⟨"create_inhibitor", [.newId, .object]⟩, ⟨"destroy", []⟩]
        events := [] }
  | .zwpIdleInhibitorV1 => some {
        requests := [⟨"destroy", []⟩]
        events := [] }
  | .zwpRelativePointerManagerV1 => some {
        requests := [⟨"get_relative_pointer", [.newId, .object]⟩, ⟨"destroy", []⟩]
        events := [] }
  | .zwpRelativePointerV1 => some {
        requests := [⟨"destroy", []⟩]
        events := [⟨"relative_motion", [.uint, .uint, .fixed, .fixed, .fixed, .fixed]⟩] }
  | .zwpPointerConstraintsV1 => some {
        requests := [
          ⟨"lock_pointer", [.newId, .object, .object, .object, .uint]⟩,
          ⟨"confine_pointer", [.newId, .object, .object, .object, .uint]⟩, ⟨"destroy", []⟩]
        events := [] }
  | .zwpLockedPointerV1 => some {
        requests := [
          ⟨"set_cursor_position_hint", [.fixed, .fixed]⟩, ⟨"set_region", [.object]⟩,
          ⟨"destroy", []⟩]
        events := [⟨"locked", []⟩, ⟨"unlocked", []⟩] }
  | .zwpConfinedPointerV1 => some {
        requests := [⟨"set_region", [.object]⟩, ⟨"destroy", []⟩]
        events := [⟨"confined", []⟩, ⟨"unconfined", []⟩] }

def Interface.request? (interface : Interface) (opcode : Nat) : Option MessageSpec :=
  (p13ProtocolSpec interface).bind fun spec => spec.requests[opcode]?

def Interface.event? (interface : Interface) (opcode : Nat) : Option MessageSpec :=
  (p13ProtocolSpec interface).bind fun spec => spec.events[opcode]?

/-- The interfaces whose objects no request is answered on. -/
def Interface.quiet : Interface → Bool
  | .wlDisplay | .wlSurface | .wlPointer | .wlKeyboard => true
  | _ => false

def Interface.reply? (interface : Interface) (opcode : Nat) : Option MessageSpec :=
  if interface.quiet then none else interface.event? opcode

end TuffXwin.Headless
